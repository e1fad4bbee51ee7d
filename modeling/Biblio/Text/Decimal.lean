import Mathlib.Data.Int.Notation
import Mathlib.Data.List.Basic
import Mathlib.Tactic.IntervalCases

/-!
# The decimal text of an integer

`toString` writes an integer as its digits, after a sign if it is negative.  The digits of a number
other than zero do not begin with a zero.
-/

namespace Biblio

/-- The digits of a number other than zero do not begin with a zero. -/
theorem head_toDigits {n : ℕ} (hn : 0 < n) :
    (Nat.toDigits 10 n).head?.any (fun c => c != '0') = true := by
  induction n using Nat.strong_induction_on with
  | _ n ih =>
    by_cases hlt : n < 10
    · rw [Nat.toDigits_of_lt_base hlt]
      interval_cases n <;> rfl
    · have hpos : 0 < n / 10 := by omega
      have hne : Nat.toDigits 10 (n / 10) ≠ [] := Nat.toDigits_ne_nil
      rw [Nat.toDigits_of_base_le (by decide) (by omega), List.head?_append_of_ne_nil _ hne]
      exact ih (n / 10) (by omega) hpos

theorem isDigit_of_mem {n : ℕ} {c : Char} (hc : c ∈ Nat.toDigits 10 n) : c.isDigit = true :=
  Nat.isDigit_of_mem_toDigits (by decide) (by decide) hc

theorem all_isDigit_toDigits (n : ℕ) : (Nat.toDigits 10 n).all Char.isDigit = true :=
  List.all_eq_true.mpr fun _ => isDigit_of_mem

theorem toList_toString (p : ℤ) :
    (toString p).toList = if 0 ≤ p then Nat.toDigits 10 p.natAbs
      else '-' :: Nat.toDigits 10 p.natAbs := by
  rw [Int.toString_eq_repr, Int.repr_eq_if]
  split
  · rw [Nat.toList_repr, show p.toNat = p.natAbs by omega]
  · rw [String.toList_append, Nat.toList_repr, show (-p).toNat = p.natAbs by omega]
    rfl

end Biblio
