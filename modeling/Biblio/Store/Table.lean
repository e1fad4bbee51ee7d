import Mathlib.Data.List.Nodup
import Mathlib.Data.List.Basic

/-!
# Tables with a generated primary key

A `Table ρ` is the contents of a relation whose rows carry a generated integer key: a list of
rows, in the order the engine returns them, and the counter that gives the next key.  The
structure carries what the key guarantees (`nodup`, `pos`, `lt_next`), so that a table with two
rows of one key, or with the key `0`, cannot be built; nothing is assumed about the other
columns.

The statements are `insert`, `update` and `delete`; the queries are `find` (by key), `select`
and `count` (by a condition).  The proofs about a table go through the number of rows meeting a
condition: `count_eq_others` splits it into the row of one key and the `others`, which `update`
does not touch (`others_update`), and `count_insert`, `count_update`, `count_delete` say how the
three statements change it.
-/

namespace Biblio

/-- Rows with an integer key. -/
class Keyed (ρ : Type) where
  /-- The key of a row. -/
  key : ρ → ℕ
  /-- The row with another key. -/
  withKey : ℕ → ρ → ρ
  key_withKey : ∀ n r, key (withKey n r) = n

open Keyed

attribute [simp] Keyed.key_withKey

/-- The contents of a table with a generated primary key. -/
structure Table (ρ : Type) [Keyed ρ] where
  /-- The rows, in the order in which the engine lists them. -/
  rows : List ρ
  /-- The counter of the generated key: the key of the next inserted row. -/
  next : ℕ
  /-- The key is a primary key. -/
  nodup : (rows.map key).Nodup
  /-- Generated keys start at one. -/
  pos : ∀ r ∈ rows, 0 < key r
  /-- The counter is above every key. -/
  lt_next : ∀ r ∈ rows, key r < next
  /-- The counter starts at one. -/
  next_pos : 0 < next

namespace Table

variable {ρ : Type} [Keyed ρ]

/-! ### Queries -/

/-- The empty table. -/
def empty : Table ρ where
  rows := []
  next := 1
  nodup := List.nodup_nil
  pos := by simp
  lt_next := by simp
  next_pos := Nat.one_pos

/-- The row with key `i`, if there is one. -/
def find (t : Table ρ) (i : ℕ) : Option ρ :=
  t.rows.find? fun r => key r == i

/-- The rows that meet a condition. -/
def select (t : Table ρ) (p : ρ → Bool) : List ρ :=
  t.rows.filter p

/-- The number of rows that meet a condition. -/
def count (t : Table ρ) (p : ρ → Bool) : ℕ :=
  t.rows.countP p

/-- The number of rows other than that of key `i` that meet a condition. -/
def others (t : Table ρ) (i : ℕ) (p : ρ → Bool) : ℕ :=
  t.count fun r => p r && key r != i

/-! ### Statements -/

/-- Append a row, with the next generated key. -/
def insert (t : Table ρ) (r : ρ) : Table ρ where
  rows := t.rows ++ [withKey t.next r]
  next := t.next + 1
  nodup := by
    rw [List.map_append, List.nodup_append]
    refine ⟨t.nodup, by simp, ?_⟩
    intro a ha b hb hab
    obtain ⟨x, hx, rfl⟩ := List.mem_map.mp ha
    have := t.lt_next x hx
    simp at hb
    omega
  pos := by
    intro x hx
    rcases List.mem_append.mp hx with h | h
    · exact t.pos x h
    · rw [List.mem_singleton.mp h, key_withKey]
      exact t.next_pos
  lt_next := by
    intro x hx
    rcases List.mem_append.mp hx with h | h
    · exact Nat.lt_succ_of_lt (t.lt_next x h)
    · rw [List.mem_singleton.mp h, key_withKey]
      exact Nat.lt_succ_self _
  next_pos := Nat.succ_pos _

/-- The row a key's update leaves: `f` applied to the row of key `i`, with its key kept. -/
def updateRow (i : ℕ) (f : ρ → ρ) (r : ρ) : ρ :=
  if key r = i then withKey i (f r) else r

@[simp] theorem key_updateRow (i : ℕ) (f : ρ → ρ) (r : ρ) : key (updateRow i f r) = key r := by
  unfold updateRow
  split_ifs with h
  · rw [key_withKey, h]
  · rfl

/-- Apply `f` to the row of key `i`; a table without that key is unchanged. -/
def update (t : Table ρ) (i : ℕ) (f : ρ → ρ) : Table ρ where
  rows := t.rows.map (updateRow i f)
  next := t.next
  nodup := by
    have h : key ∘ updateRow i f = (key : ρ → ℕ) := funext (key_updateRow i f)
    rw [List.map_map, h]
    exact t.nodup
  pos := by
    intro x hx
    obtain ⟨r, hr, rfl⟩ := List.mem_map.mp hx
    rw [key_updateRow]
    exact t.pos r hr
  lt_next := by
    intro x hx
    obtain ⟨r, hr, rfl⟩ := List.mem_map.mp hx
    rw [key_updateRow]
    exact t.lt_next r hr
  next_pos := t.next_pos

/-- Remove the rows that meet a condition. -/
def deleteWhere (t : Table ρ) (p : ρ → Bool) : Table ρ where
  rows := t.rows.filter fun r => !p r
  next := t.next
  nodup := t.nodup.sublist (List.filter_sublist.map key)
  pos := fun x hx => t.pos x (List.mem_filter.mp hx).1
  lt_next := fun x hx => t.lt_next x (List.mem_filter.mp hx).1
  next_pos := t.next_pos

/-- Remove the row of key `i`; a table without that key is unchanged. -/
def delete (t : Table ρ) (i : ℕ) : Table ρ :=
  t.deleteWhere fun r => key r == i

/-! ### Rows -/

theorem mem_of_find {t : Table ρ} {i : ℕ} {r : ρ} (h : t.find i = some r) : r ∈ t.rows :=
  List.mem_of_find?_eq_some h

theorem key_of_find {t : Table ρ} {i : ℕ} {r : ρ} (h : t.find i = some r) : key r = i := by
  simpa using List.find?_some h

/-- The key determines the row. -/
theorem eq_of_key_eq (t : Table ρ) {r r' : ρ} (hr : r ∈ t.rows) (hr' : r' ∈ t.rows)
    (h : key r = key r') : r = r' :=
  List.inj_on_of_nodup_map t.nodup hr hr' h

theorem find_eq_some_iff (t : Table ρ) (i : ℕ) (r : ρ) :
    t.find i = some r ↔ r ∈ t.rows ∧ key r = i := by
  constructor
  · intro h
    exact ⟨mem_of_find h, key_of_find h⟩
  · rintro ⟨hr, hk⟩
    obtain ⟨r', hr'⟩ : ∃ r', t.find i = some r' := by
      rw [← Option.isSome_iff_exists, find, List.find?_isSome]
      exact ⟨r, hr, by simp [hk]⟩
    rw [hr', t.eq_of_key_eq (mem_of_find hr') hr (by rw [key_of_find hr', hk])]

theorem find_eq_none_iff (t : Table ρ) (i : ℕ) : t.find i = none ↔ ∀ r ∈ t.rows, key r ≠ i := by
  simp [find]

theorem mem_insert {t : Table ρ} {r x : ρ} :
    x ∈ (t.insert r).rows ↔ x ∈ t.rows ∨ x = withKey t.next r := by
  simp [insert]

theorem mem_update {t : Table ρ} {i : ℕ} {f : ρ → ρ} {x : ρ} :
    x ∈ (t.update i f).rows ↔ ∃ r ∈ t.rows, updateRow i f r = x := by
  simp [update]

theorem mem_delete {t : Table ρ} {i : ℕ} {x : ρ} :
    x ∈ (t.delete i).rows ↔ x ∈ t.rows ∧ key x ≠ i := by
  simp [delete, deleteWhere]

theorem mem_select {t : Table ρ} {p : ρ → Bool} {x : ρ} :
    x ∈ t.select p ↔ x ∈ t.rows ∧ p x = true := by
  simp [select]

/-! ### The row of a key after a statement -/

theorem find_insert_of_ne (t : Table ρ) (r : ρ) {i : ℕ} (hi : i ≠ t.next) :
    (t.insert r).find i = t.find i := by
  ext x
  rw [find_eq_some_iff, find_eq_some_iff, mem_insert]
  constructor
  · rintro ⟨hx | rfl, hk⟩
    · exact ⟨hx, hk⟩
    · exact absurd (hk.symm.trans (key_withKey _ _)) hi
  · rintro ⟨hx, hk⟩
    exact ⟨Or.inl hx, hk⟩

theorem find_update_self (t : Table ρ) (i : ℕ) (f : ρ → ρ) :
    (t.update i f).find i = (t.find i).map fun r => withKey i (f r) := by
  cases h : t.find i with
  | none =>
    rw [Option.map_none, find_eq_none_iff]
    intro x hx
    obtain ⟨r, hr, rfl⟩ := mem_update.mp hx
    rw [key_updateRow]
    exact (t.find_eq_none_iff i).mp h r hr
  | some r =>
    rw [Option.map_some, find_eq_some_iff, mem_update, key_withKey]
    refine ⟨⟨r, mem_of_find h, ?_⟩, rfl⟩
    rw [updateRow, if_pos (key_of_find h)]

theorem find_update_of_ne (t : Table ρ) {i j : ℕ} (f : ρ → ρ) (hij : j ≠ i) :
    (t.update i f).find j = t.find j := by
  ext x
  rw [find_eq_some_iff, find_eq_some_iff, mem_update]
  constructor
  · rintro ⟨⟨r, hr, rfl⟩, hk⟩
    rw [key_updateRow] at hk
    rw [updateRow, if_neg (hk ▸ hij)]
    exact ⟨hr, hk⟩
  · rintro ⟨hx, hk⟩
    exact ⟨⟨x, hx, by rw [updateRow, if_neg (hk ▸ hij)]⟩, hk⟩

/-- An update depends on what it makes of the row it is for. -/
theorem update_congr (t : Table ρ) {i : ℕ} {f g : ρ → ρ} (h : ∀ r, t.find i = some r → f r = g r) :
    t.update i f = t.update i g := by
  have hrows : t.rows.map (updateRow i f) = t.rows.map (updateRow i g) := by
    refine List.map_congr_left fun r hr => ?_
    unfold updateRow
    split_ifs with hk
    · rw [h r ((t.find_eq_some_iff i r).mpr ⟨hr, hk⟩)]
    · rfl
  unfold update
  simp only [hrows]

theorem find_delete_self (t : Table ρ) (i : ℕ) : (t.delete i).find i = none := by
  rw [find_eq_none_iff]
  intro x hx
  exact (mem_delete.mp hx).2

theorem find_delete_of_ne (t : Table ρ) {i j : ℕ} (hij : j ≠ i) :
    (t.delete i).find j = t.find j := by
  ext x
  rw [find_eq_some_iff, find_eq_some_iff, mem_delete]
  constructor
  · rintro ⟨⟨hx, -⟩, hk⟩
    exact ⟨hx, hk⟩
  · rintro ⟨hx, hk⟩
    exact ⟨⟨hx, hk ▸ hij⟩, hk⟩

theorem find_delete_eq_none {t : Table ρ} {j : ℕ} (h : t.find j = none) (i : ℕ) :
    (t.delete i).find j = none := by
  by_cases hij : j = i
  · rw [hij, find_delete_self]
  · rw [t.find_delete_of_ne hij, h]

/-! ### Which keys there are -/

theorem isSome_find_iff (t : Table ρ) (i : ℕ) :
    (t.find i).isSome = true ↔ ∃ r ∈ t.rows, key r = i := by
  simp [find]

theorem isSome_find_insert {t : Table ρ} {i : ℕ} (h : (t.find i).isSome = true) (r : ρ) :
    ((t.insert r).find i).isSome = true := by
  obtain ⟨x, hx, hkey⟩ := (t.isSome_find_iff i).mp h
  exact (isSome_find_iff _ i).mpr ⟨x, mem_insert.mpr (.inl hx), hkey⟩

theorem isSome_find_update {t : Table ρ} {i : ℕ} (h : (t.find i).isSome = true) (j : ℕ)
    (f : ρ → ρ) : ((t.update j f).find i).isSome = true := by
  obtain ⟨x, hx, hkey⟩ := (t.isSome_find_iff i).mp h
  exact (isSome_find_iff _ i).mpr
    ⟨updateRow j f x, mem_update.mpr ⟨x, hx, rfl⟩, (key_updateRow ..).trans hkey⟩

theorem isSome_find_delete {t : Table ρ} {i j : ℕ} (h : (t.find i).isSome = true) (hne : i ≠ j) :
    ((t.delete j).find i).isSome = true := by
  rw [t.find_delete_of_ne hne]
  exact h

/-! ### Deleting several rows -/

/-- The rows and the counter determine a table. -/
theorem ext_rows {t t' : Table ρ} (hrows : t.rows = t'.rows) (hnext : t.next = t'.next) :
    t = t' := by
  cases t
  cases t'
  cases hrows
  cases hnext
  rfl

theorem deleteWhere_congr {t : Table ρ} {p q : ρ → Bool} (h : ∀ r ∈ t.rows, p r = q r) :
    t.deleteWhere p = t.deleteWhere q :=
  ext_rows (List.filter_congr fun r hr => by rw [h r hr]) rfl

theorem deleteWhere_eq_self {t : Table ρ} {p : ρ → Bool} (h : ∀ r ∈ t.rows, p r = false) :
    t.deleteWhere p = t :=
  ext_rows (List.filter_eq_self.mpr fun r hr => by rw [h r hr]; rfl) rfl

theorem deleteWhere_deleteWhere (t : Table ρ) (p q : ρ → Bool) :
    (t.deleteWhere p).deleteWhere q = t.deleteWhere fun r => p r || q r := by
  refine ext_rows ?_ rfl
  show (t.rows.filter fun r => !p r).filter (fun r => !q r) = t.rows.filter fun r => !(p r || q r)
  rw [List.filter_filter]
  exact List.filter_congr fun r _ => by rw [Bool.not_or, Bool.and_comm]

/-- Deleting rows one after the other, by their keys. -/
theorem foldl_delete (l : List ρ) (t : Table ρ) :
    l.foldl (fun t r => t.delete (key r)) t
      = t.deleteWhere fun r => l.any fun x => key r == key x := by
  induction l generalizing t with
  | nil => exact (deleteWhere_eq_self fun _ _ => rfl).symm
  | cons x l ih =>
    rw [List.foldl_cons, ih, delete, deleteWhere_deleteWhere]
    rfl

/-- Deleting the rows found one after the other is deleting them all. -/
theorem foldl_delete_select (t : Table ρ) (p : ρ → Bool) :
    (t.select p).foldl (fun t r => t.delete (key r)) t = t.deleteWhere p := by
  rw [foldl_delete]
  refine deleteWhere_congr fun r hr => ?_
  rw [Bool.eq_iff_iff, List.any_eq_true]
  constructor
  · rintro ⟨x, hx, hkey⟩
    obtain ⟨hmem, hp⟩ := mem_select.mp hx
    rwa [t.eq_of_key_eq hr hmem (beq_iff_eq.mp hkey)]
  · intro hp
    exact ⟨r, mem_select.mpr ⟨hr, hp⟩, beq_self_eq_true _⟩

/-! ### Counting -/

theorem count_eq_zero_iff (t : Table ρ) (p : ρ → Bool) :
    t.count p = 0 ↔ ∀ r ∈ t.rows, p r = false := by
  simp [count, List.countP_eq_zero]

theorem length_select (t : Table ρ) (p : ρ → Bool) : (t.select p).length = t.count p := by
  rw [select, count, List.countP_eq_length_filter]

/-- How many rows of key `i` meet a condition: one or none. -/
def here (t : Table ρ) (i : ℕ) (p : ρ → Bool) : ℕ :=
  (t.find i).elim 0 fun r => (p r).toNat

/-- In a list of distinct keys, the rows that meet `p` are the one of key `i`, if it does, and
those of another key. -/
private theorem countP_eq_of_nodup_keys (i : ℕ) (p : ρ → Bool) : ∀ l : List ρ,
    (l.map key).Nodup → l.countP p = l.countP (fun r => p r && key r != i)
      + (l.find? fun r => key r == i).elim 0 fun r => (p r).toNat
  | [], _ => rfl
  | a :: l, h => by
    rw [List.map_cons, List.nodup_cons] at h
    have ih := countP_eq_of_nodup_keys i p l h.2
    rw [List.countP_cons, List.countP_cons, ih]
    by_cases ha : key a = i
    · -- `a` has the key, so no other row of the list does
      have hl : l.find? (fun r => key r == i) = none := by
        rw [List.find?_eq_none]
        intro x hx hxi
        exact h.1 (List.mem_map.mpr ⟨x, hx, by rw [ha]; simpa using hxi⟩)
      rw [hl, List.find?_cons_of_pos (by simpa using ha)]
      cases hp : p a <;> simp [ha, hp]
    · rw [List.find?_cons_of_neg (by simpa using ha)]
      cases p a
      · simp
      · simp [ha]
        omega

theorem count_eq_others (t : Table ρ) (i : ℕ) (p : ρ → Bool) :
    t.count p = t.others i p + t.here i p :=
  countP_eq_of_nodup_keys i p t.rows t.nodup

theorem others_le_count (t : Table ρ) (i : ℕ) (p : ρ → Bool) : t.others i p ≤ t.count p := by
  rw [t.count_eq_others i p]
  exact Nat.le_add_right _ _

/-- No row has the key `0`. -/
theorem others_zero (t : Table ρ) (p : ρ → Bool) : t.others 0 p = t.count p := by
  refine List.countP_congr fun r hr => ?_
  have := t.pos r hr
  simp
  omega

theorem others_update (t : Table ρ) (i : ℕ) (f : ρ → ρ) (p : ρ → Bool) :
    (t.update i f).others i p = t.others i p := by
  unfold others count update
  rw [List.countP_map]
  refine List.countP_congr fun r _ => ?_
  by_cases hr : key r = i
  · simp [hr]
  · simp [updateRow, hr]

theorem count_update (t : Table ρ) (i : ℕ) (f : ρ → ρ) (p : ρ → Bool) :
    (t.update i f).count p
      = t.others i p + (t.find i).elim 0 fun r => (p (withKey i (f r))).toNat := by
  rw [count_eq_others _ i, others_update, here, find_update_self]
  cases t.find i <;> rfl

theorem count_insert (t : Table ρ) (r : ρ) (p : ρ → Bool) :
    (t.insert r).count p = t.count p + (p (withKey t.next r)).toNat := by
  unfold count insert
  rw [List.countP_append, List.countP_singleton]
  cases p (withKey t.next r) <;> rfl

theorem count_delete (t : Table ρ) (i : ℕ) (p : ρ → Bool) :
    (t.delete i).count p = t.others i p := by
  unfold delete deleteWhere others count
  rw [List.countP_filter]
  rfl

theorem count_delete_le (t : Table ρ) (i : ℕ) (p : ρ → Bool) :
    (t.delete i).count p ≤ t.count p := by
  rw [count_delete]
  exact others_le_count t i p

end Table

end Biblio
