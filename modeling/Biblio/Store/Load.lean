import Biblio.Store.Table
import Mathlib.Data.Fintype.Card
import Mathlib.Data.List.OfFn

/-!
# Loading tables

A load is a program that inserts rows and goes on with the keys they get.  It is one transaction: a
statement that fails makes it fail as a whole.

`ofFnM_eq` is the invariant rule for a loop, `ofFnM_insertAll` that for a loop which inserts one row
at a time into one table and writes nothing else: the rows get consecutive keys, and the table in
the end is `insertAll` of the rows.  What a load leaves is then counted with `count_insertAll`.
-/

namespace Biblio

open Keyed

/-! ### Several rows -/

namespace Table

variable {ρ : Type} [Keyed ρ]

/-- `insert` of several rows, one after the other. -/
def insertAll (t : Table ρ) (rs : List ρ) : Table ρ := rs.foldl insert t

theorem insertAll_append (t : Table ρ) (rs rs' : List ρ) :
    t.insertAll (rs ++ rs') = (t.insertAll rs).insertAll rs' :=
  List.foldl_append ..

theorem insertAll_concat (t : Table ρ) (rs : List ρ) (r : ρ) :
    t.insertAll (rs ++ [r]) = (t.insertAll rs).insert r :=
  insertAll_append t rs [r]

/-- The counter moves on by one for each row. -/
theorem next_insertAll (t : Table ρ) (rs : List ρ) :
    (t.insertAll rs).next = t.next + rs.length := by
  induction rs generalizing t with
  | nil => rfl
  | cons r rs ih =>
    have hrest : (t.insertAll (r :: rs)).next = t.next + 1 + rs.length := ih (t.insert r)
    rw [hrest, List.length_cons]
    omega

theorem isSome_find_insertAll {t : Table ρ} {i : ℕ} (h : (t.find i).isSome = true)
    (rs : List ρ) : ((t.insertAll rs).find i).isSome = true := by
  induction rs generalizing t with
  | nil => exact h
  | cons r rs ih => exact ih (isSome_find_insert h r)

theorem isSome_find_next (t : Table ρ) (r : ρ) : ((t.insert r).find t.next).isSome = true := by
  rw [isSome_find_iff]
  exact ⟨_, mem_insert.mpr (Or.inr rfl), key_withKey _ _⟩

/-- The keys of the rows are consecutive. -/
theorem isSome_find_add (t : Table ρ) {rs : List ρ} {i : ℕ} (hi : i < rs.length) :
    ((t.insertAll rs).find (t.next + i)).isSome = true := by
  induction rs generalizing t i with
  | nil => exact absurd hi (Nat.not_lt_zero i)
  | cons r rs ih =>
    cases i with
    | zero => exact isSome_find_insertAll (t.isSome_find_next r) rs
    | succ i =>
      have hkey : t.next + (i + 1) = (t.insert r).next + i := by
        show _ = t.next + 1 + i
        omega
      rw [hkey]
      exact ih (t.insert r) (Nat.lt_of_succ_lt_succ hi)

theorem isSome_find_ofFn (t : Table ρ) {n : ℕ} (row : Fin n → ρ) (i : Fin n) :
    ((t.insertAll (List.ofFn row)).find (t.next + i)).isSome = true := by
  refine t.isSome_find_add ?_
  rw [List.length_ofFn]
  exact i.isLt

/-- The rows are counted by a condition that does not look at their keys. -/
theorem count_insertAll (t : Table ρ) (rs : List ρ) {p : ρ → Bool}
    (hp : ∀ n r, p (withKey n r) = p r) : (t.insertAll rs).count p = t.count p + rs.countP p := by
  induction rs generalizing t with
  | nil => rfl
  | cons r rs ih =>
    have hrest : (t.insertAll (r :: rs)).count p = (t.insert r).count p + rs.countP p :=
      ih (t.insert r)
    have hhead : rs.countP p + (p r).toNat = (r :: rs).countP p := by
      rw [List.countP_cons]
      cases p r <;> rfl
    rw [hrest, count_insert, hp, ← hhead]
    omega

/-- `DELETE` of all rows: the counter stays. -/
def clear (t : Table ρ) : Table ρ := t.deleteWhere fun _ => true

@[simp] theorem count_clear (t : Table ρ) (p : ρ → Bool) : t.clear.count p = 0 := by
  simp [clear, deleteWhere, count]

end Table

/-! ### Loads -/

/-- A program that writes a state, or fails. -/
abbrev Load (σ α : Type) := StateT σ Option α

namespace Load

variable {σ α β : Type}

/-- The key that a row is about to get, and the statement that inserts it. -/
def insert (next : σ → ℕ) (write : σ → Option σ) : Load σ ℕ := fun s =>
  (write s).map fun s' => (next s, s')

theorem insert_eq {next : σ → ℕ} {write : σ → Option σ} {s s' : σ} (h : write s = some s') :
    insert next write s = some (next s, s') := by
  rw [insert, h, Option.map_some]

theorem bind_eq {x : Load σ α} {f : α → Load σ β} {s s' : σ} {a : α} (h : x s = some (a, s')) :
    (x >>= f) s = f a s' := by
  show (x s).bind _ = _
  rw [h, Option.bind_some]

/-- The keys a loop returns. -/
theorem get_ofFn {n : ℕ} (f : Fin n → ℕ) : (Vector.ofFn f).get = f := by
  funext i
  show (Vector.ofFn f)[i.val] = f i
  rw [Vector.getElem_ofFn]

/-- **Loop rule.**  `I i` holds before the `i`-th step, which returns `r i`. -/
theorem ofFnM_eq {n : ℕ} {f : Fin n → Load σ α} (r : Fin n → α) (I : ℕ → σ → Prop)
    (hstep : ∀ (i : Fin n) s, I i s → ∃ s', f i s = some (r i, s') ∧ I (i + 1) s') {s : σ}
    (hs : I 0 s) : ∃ s', Vector.ofFnM f s = some (Vector.ofFn r, s') ∧ I n s' := by
  induction n with
  | zero =>
    refine ⟨s, ?_, hs⟩
    have hnil : Vector.ofFn r = #v[] := Vector.eq_empty
    rw [Vector.ofFnM_zero, hnil]
    rfl
  | succ n ih =>
    obtain ⟨s', hrun, hs'⟩ :=
      ih (f := fun i => f i.castSucc) (fun i => r i.castSucc) fun i => hstep i.castSucc
    obtain ⟨s'', hlast, hs''⟩ := hstep (Fin.last n) s' hs'
    refine ⟨s'', ?_, hs''⟩
    rw [Vector.ofFnM_succ, bind_eq hrun, bind_eq hlast, Vector.ofFn_succ]
    rfl

theorem take_succ_ofFn {ρ : Type} {n : ℕ} (row : Fin n → ρ) (i : Fin n) :
    (List.ofFn row).take (i + 1) = (List.ofFn row).take i ++ [row i] := by
  have hi : (i : ℕ) < (List.ofFn row).length := by rw [List.length_ofFn]; exact i.isLt
  rw [← List.take_concat_get' _ _ hi, List.getElem_ofFn]

theorem length_take_ofFn {ρ : Type} {n : ℕ} (row : Fin n → ρ) (i : Fin n) :
    ((List.ofFn row).take i).length = i := by
  rw [List.length_take, List.length_ofFn]
  omega

/-- **Loop rule for one table.**  `put t` is the state with the table `t`; the `i`-th step inserts
`row i` and returns its key. -/
theorem ofFnM_insertAll {ρ : Type} [Keyed ρ] {n : ℕ} {f : Fin n → Load σ ℕ}
    (put : Table ρ → σ) (row : Fin n → ρ) (t : Table ρ)
    (hstep : ∀ (i : Fin n) (t' : Table ρ), t' = t.insertAll ((List.ofFn row).take i) →
      f i (put t') = some (t'.next, put (t'.insert (row i)))) :
    Vector.ofFnM f (put t)
      = some (Vector.ofFn fun i => t.next + i, put (t.insertAll (List.ofFn row))) := by
  obtain ⟨s', hrun, hs'⟩ := ofFnM_eq (f := f) (s := put t) (fun i => t.next + i)
    (fun i s => s = put (t.insertAll ((List.ofFn row).take i)))
    (fun i s hs => by
      refine ⟨_, ?_, rfl⟩
      rw [hs, hstep i _ rfl, Table.next_insertAll, length_take_ofFn, take_succ_ofFn,
        Table.insertAll_concat])
    rfl
  rw [hrun, hs', List.take_of_length_le (Nat.le_of_eq List.length_ofFn)]

end Load

/-! ### Counting what was loaded -/

theorem countP_ofFn {ρ : Type} {n : ℕ} (row : Fin n → ρ) (p : ρ → Bool) :
    (List.ofFn row).countP p = (Finset.univ.filter fun i => p (row i) = true).card := by
  rw [List.ofFn_eq_map, List.countP_map, Fin.univ_def, Finset.card_def, Finset.filter_val,
    ← Multiset.countP_eq_card_filter, Multiset.coe_countP]
  simp [Function.comp_def]

end Biblio
