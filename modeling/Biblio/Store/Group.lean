import Mathlib.Algebra.BigOperators.Group.List.Lemmas
import Mathlib.Algebra.Order.Ring.Nat
import Mathlib.Data.List.Dedup
import Mathlib.Data.List.Perm.Basic

/-!
# Grouped counts

`groupCount n l` is `SELECT x, COUNT(*) ... GROUP BY x ORDER BY x DESC LIMIT n`, where `l` lists the
values of the column.  `groupCount_spec` says which groups it lists, in which order and with which
counts; what the limit leaves out is below all that is listed.

`sum_countP_of_mem` is the other use of groups: rows that refer to a list of keys are counted key
by key.
-/

namespace Biblio

section Groups

variable {β : Type} [LinearOrder β]

/-- The `n` greatest values of a column, in descending order, with the numbers of their rows. -/
def groupCount (n : ℕ) (l : List β) : List (β × ℕ) :=
  ((l.dedup.mergeSort fun a b => decide (b ≤ a)).take n).map fun x => (x, l.count x)

/-- The groups that a query lists. -/
structure Groups (n : ℕ) (l : List β) (g : List (β × ℕ)) : Prop where
  length : g.length = min n l.dedup.length
  descending : g.Pairwise fun e e' => e'.1 < e.1
  counts : ∀ e ∈ g, e.2 = l.count e.1 ∧ 0 < e.2
  rest : ∀ x ∈ l, (∃ e ∈ g, e.1 = x) ∨ g.length = n ∧ ∀ e ∈ g, x < e.1
  total : l.dedup.length ≤ n → (g.map Prod.snd).sum = l.length

/-- The distinct values, in descending order. -/
theorem pairwise_lt_mergeSort_dedup (l : List β) :
    (l.dedup.mergeSort fun a b => decide (b ≤ a)).Pairwise fun a b => b < a := by
  set m := l.dedup.mergeSort fun a b => decide (b ≤ a) with hm
  have hsorted : m.Pairwise fun a b => decide (b ≤ a) = true := by
    apply List.pairwise_mergeSort
    · intro a b c hab hbc
      rw [decide_eq_true_eq] at *
      exact hbc.trans hab
    · intro a b
      rw [Bool.or_eq_true, decide_eq_true_eq, decide_eq_true_eq]
      exact le_total b a
  have hle : m.Pairwise fun a b => b ≤ a := hsorted.imp fun h => of_decide_eq_true h
  have hne : m.Nodup := (List.mergeSort_perm _ _).nodup_iff.mpr l.nodup_dedup
  exact (hle.and hne).imp fun h => lt_of_le_of_ne h.1 (Ne.symm h.2)

theorem groupCount_spec (n : ℕ) (l : List β) : Groups n l (groupCount n l) := by
  unfold groupCount
  have hperm : (l.dedup.mergeSort fun a b => decide (b ≤ a)).Perm l.dedup := List.mergeSort_perm _ _
  have hdesc := pairwise_lt_mergeSort_dedup l
  generalize (l.dedup.mergeSort fun a b => decide (b ≤ a)) = m at hperm hdesc ⊢
  have hmem : ∀ x, x ∈ m ↔ x ∈ l := fun x => hperm.mem_iff.trans List.mem_dedup
  refine ⟨?_, ?_, ?_, ?_, ?_⟩
  · rw [List.length_map, List.length_take, hperm.length_eq]
  · rw [List.pairwise_map]
    exact hdesc.sublist (List.take_sublist n m)
  · intro e he
    obtain ⟨x, hx, rfl⟩ := List.mem_map.mp he
    exact ⟨rfl, List.count_pos_iff.mpr ((hmem x).mp (List.mem_of_mem_take hx))⟩
  · intro x hx
    -- a value is among the first `n`, or it is below all of these
    rw [← hmem x, ← List.take_append_drop n m, List.mem_append] at hx
    rcases hx with hx | hx
    · exact Or.inl ⟨_, List.mem_map_of_mem hx, rfl⟩
    · right
      have hlong : n ≤ m.length := by
        by_contra hshort
        rw [List.drop_eq_nil_of_le (by omega)] at hx
        cases hx
      refine ⟨?_, fun e he => ?_⟩
      · rw [List.length_map, List.length_take]
        omega
      · obtain ⟨y, hy, rfl⟩ := List.mem_map.mp he
        rw [← List.take_append_drop n m, List.pairwise_append] at hdesc
        exact hdesc.2.2 y hy x hx
  · intro hn
    rw [List.take_of_length_le (by rw [hperm.length_eq]; exact hn), List.map_map]
    calc (m.map (Prod.snd ∘ fun x => (x, l.count x))).sum
        = (l.dedup.map fun x => l.count x).sum := (hperm.map _).sum_eq
      _ = l.length := List.sum_map_count_dedup_eq_length l

end Groups

/-! ### Counting key by key -/

variable {α : Type}

/-- A sum of zeros and ones. -/
theorem sum_map_boole (q : α → Bool) (l : List α) :
    (l.map fun x => if q x = true then 1 else 0).sum = l.countP q := by
  induction l with
  | nil => rfl
  | cons x l ih => rw [List.map_cons, List.sum_cons, ih, List.countP_cons, Nat.add_comm]

/-- Every row that meets `p` is counted at the key it refers to, and nowhere else. -/
theorem sum_countP_of_mem (p : α → Bool) (ref : α → ℕ) {keys : List ℕ} (hkeys : keys.Nodup) :
    ∀ l : List α, (∀ r ∈ l, p r = true → ref r ∈ keys) →
      (keys.map fun k => l.countP fun r => p r && ref r == k).sum = l.countP p
  | [], _ => by simp
  | r :: l, h => by
    have ih := sum_countP_of_mem p ref hkeys l fun x hx => h x (List.mem_cons_of_mem r hx)
    have hone : (keys.map fun k => if (p r && ref r == k) = true then 1 else 0).sum
        = if p r = true then 1 else 0 := by
      rw [sum_map_boole]
      by_cases hp : p r = true
      · have hcount : keys.count (ref r) = 1 :=
          List.count_eq_one_of_mem hkeys (h r List.mem_cons_self hp)
        simp only [hp, Bool.true_and, if_true]
        rw [← hcount]
        refine List.countP_congr fun k _ => ?_
        rw [beq_iff_eq, beq_iff_eq, eq_comm]
      · simp [hp]
    simp only [List.countP_cons, List.sum_map_add, ih, hone]

end Biblio
