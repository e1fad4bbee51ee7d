import Biblio.Store.Table
import Mathlib.Data.Finset.Card
import Mathlib.Data.Finset.Option

/-!
# The keys of the rows that meet a condition

`Table.keys t p` is the set of the keys of the rows of `t` that meet `p`: there are as many as such
rows, and leaving one key out leaves the others (`card_keys`, `card_keys_sdiff`).  An `insert` adds
at most the generated key, an `update` at most the key of the row it rewrites, a `delete` none.
The last section says what an `insert` and a `delete` do to a selection and to the keys in use.
-/

namespace Biblio

namespace Table

open Keyed

variable {ρ : Type} [Keyed ρ]

/-- The keys of the rows that meet a condition. -/
def keys (t : Table ρ) (p : ρ → Bool) : Finset ℕ := ((t.select p).map key).toFinset

variable {t : Table ρ} {p : ρ → Bool} {i : ℕ}

theorem mem_keys : i ∈ t.keys p ↔ ∃ r ∈ t.rows, p r = true ∧ key r = i := by
  simp only [keys, List.mem_toFinset, List.mem_map, mem_select, and_assoc]

theorem card_keys (t : Table ρ) (p : ρ → Bool) : (t.keys p).card = t.count p := by
  have hnodup : ((t.select p).map key).Nodup :=
    t.nodup.sublist (List.filter_sublist.map key)
  rw [keys, List.toFinset_card_of_nodup hnodup, List.length_map, length_select]

theorem card_keys_sdiff (t : Table ρ) (p : ρ → Bool) (i : ℕ) :
    (t.keys p \ {i}).card = t.others i p := by
  have hkeys : t.keys p \ {i} = t.keys fun r => p r && key r != i := by
    ext j
    simp only [Finset.mem_sdiff, Finset.mem_singleton, mem_keys, Bool.and_eq_true, bne_iff_ne]
    constructor
    · rintro ⟨⟨r, hr, hp, rfl⟩, hne⟩
      exact ⟨r, hr, ⟨hp, hne⟩, rfl⟩
    · rintro ⟨r, hr, ⟨hp, hne⟩, rfl⟩
      exact ⟨⟨r, hr, hp, rfl⟩, hne⟩
  rw [hkeys, card_keys]
  rfl

/-- Leaving out the row of a key, if there is one to leave out; no row has the key `0`. -/
theorem card_keys_sdiff_toFinset (t : Table ρ) (p : ρ → Bool) (o : Option ℕ) :
    (t.keys p \ o.toFinset).card = t.others (o.getD 0) p := by
  cases o with
  | none => rw [Option.toFinset_none, Finset.sdiff_empty, card_keys, Option.getD_none, others_zero]
  | some i => exact card_keys_sdiff t p i

theorem keys_insert_subset (t : Table ρ) (r : ρ) (p : ρ → Bool) :
    (t.insert r).keys p ⊆ Insert.insert t.next (t.keys p) := by
  intro i hi
  obtain ⟨x, hx, hp, rfl⟩ := mem_keys.mp hi
  rcases mem_insert.mp hx with hx | rfl
  · exact Finset.mem_insert_of_mem (mem_keys.mpr ⟨x, hx, hp, rfl⟩)
  · rw [key_withKey]
    exact Finset.mem_insert_self ..

/-- An insertion of a row that does not meet the condition. -/
theorem keys_insert_of_not (t : Table ρ) {r : ρ} (h : p (withKey t.next r) = false) :
    (t.insert r).keys p ⊆ t.keys p := by
  intro i hi
  obtain ⟨x, hx, hp, rfl⟩ := mem_keys.mp hi
  rcases mem_insert.mp hx with hx | rfl
  · exact mem_keys.mpr ⟨x, hx, hp, rfl⟩
  · rw [h] at hp
    cases hp

theorem keys_delete_subset (t : Table ρ) (i : ℕ) (p : ρ → Bool) :
    (t.delete i).keys p ⊆ t.keys p := by
  intro j hj
  obtain ⟨x, hx, hp, rfl⟩ := mem_keys.mp hj
  exact mem_keys.mpr ⟨x, (mem_delete.mp hx).1, hp, rfl⟩

theorem keys_update_subset (t : Table ρ) (i : ℕ) (f : ρ → ρ) (p : ρ → Bool) :
    (t.update i f).keys p ⊆ Insert.insert i (t.keys p) := by
  intro j hj
  obtain ⟨x, hx, hp, rfl⟩ := mem_keys.mp hj
  obtain ⟨r, hr, rfl⟩ := mem_update.mp hx
  rw [key_updateRow]
  by_cases hi : key r = i
  · rw [hi]
    exact Finset.mem_insert_self ..
  · have hsame : updateRow i f r = r := by simp [updateRow, hi]
    rw [hsame] at hp
    exact Finset.mem_insert_of_mem (mem_keys.mpr ⟨r, hr, hp, rfl⟩)

/-- An update after which a row meets the condition only if it did before. -/
theorem keys_update_of_imp (t : Table ρ) {f : ρ → ρ}
    (h : ∀ r, p (withKey i (f r)) = true → p r = true) :
    (t.update i f).keys p ⊆ t.keys p := by
  intro j hj
  obtain ⟨x, hx, hp, rfl⟩ := mem_keys.mp hj
  obtain ⟨r, hr, rfl⟩ := mem_update.mp hx
  rw [key_updateRow]
  refine mem_keys.mpr ⟨r, hr, ?_, rfl⟩
  unfold updateRow at hp
  split_ifs at hp
  · exact h r hp
  · exact hp

/-! ### Selections -/

theorem select_insert (t : Table ρ) {r : ρ} (h : p (withKey t.next r) = true) :
    (t.insert r).select p = t.select p ++ [withKey t.next r] := by
  unfold select insert
  rw [List.filter_append, List.filter_singleton, h]
  rfl

theorem select_delete (t : Table ρ) (i : ℕ) (p : ρ → Bool) :
    (t.delete i).select p = (t.select p).filter fun r => !(key r == i) := by
  unfold select delete deleteWhere
  rw [List.filter_filter, List.filter_filter]
  exact List.filter_congr fun r _ => Bool.and_comm _ _

theorem isSome_find_insert_eq (t : Table ρ) (r : ρ) (i : ℕ) :
    ((t.insert r).find i).isSome = ((t.find i).isSome || i == t.next) := by
  rw [Bool.eq_iff_iff, Bool.or_eq_true, beq_iff_eq, isSome_find_iff, isSome_find_iff]
  constructor
  · rintro ⟨x, hx, rfl⟩
    rcases mem_insert.mp hx with hx | rfl
    · exact Or.inl ⟨x, hx, rfl⟩
    · exact Or.inr (key_withKey _ _)
  · rintro (⟨x, hx, hi⟩ | rfl)
    · exact ⟨x, mem_insert.mpr (Or.inl hx), hi⟩
    · exact ⟨_, mem_insert.mpr (Or.inr rfl), key_withKey _ _⟩

theorem isSome_find_delete_eq (t : Table ρ) (i j : ℕ) :
    ((t.delete i).find j).isSome = ((t.find j).isSome && !(j == i)) := by
  by_cases hji : j = i
  · subst hji
    rw [find_delete_self]
    simp
  · rw [t.find_delete_of_ne hji]
    simp [hji]

end Table

end Biblio
