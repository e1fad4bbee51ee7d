import Mathlib.Algebra.Order.Floor.Div
import Mathlib.Data.List.Nodup

/-!
# Pages of a list

A list is shown in pages of `limit` elements, numbered from 1.  `window` is what `LIMIT` and
`OFFSET` select; `pageCount` is the number of pages, at least one.

* `existsUnique_mem_page`: an element of a list without repetition is on exactly one page;
* `length_page_of_lt`: every page before the last is full;
* `page_eq_nil_of_lt`: every page after the last is empty.
-/

namespace Biblio

variable {α : Type}

/-- The elements from an offset on, up to a number of them. -/
def window (offset limit : ℕ) (l : List α) : List α := (l.drop offset).take limit

/-- The `p`-th page. -/
def page (limit p : ℕ) (l : List α) : List α := window ((p - 1) * limit) limit l

/-- The number of pages of `n` elements; there is always a first page. -/
def pageCount (limit n : ℕ) : ℕ := max 1 (n ⌈/⌉ limit)

theorem window_sublist (offset limit : ℕ) (l : List α) : (window offset limit l).Sublist l :=
  (List.take_sublist ..).trans (List.drop_sublist ..)

/-- The positions of a window. -/
theorem mem_window_iff {offset limit : ℕ} {l : List α} {x : α} :
    x ∈ window offset limit l ↔ ∃ i, offset ≤ i ∧ i < offset + limit ∧ l[i]? = some x := by
  rw [window, List.mem_iff_getElem?]
  constructor
  · rintro ⟨j, hj⟩
    rw [List.getElem?_take] at hj
    split_ifs at hj with hlt
    rw [List.getElem?_drop] at hj
    exact ⟨offset + j, by omega, by omega, hj⟩
  · rintro ⟨i, hle, hlt, hi⟩
    refine ⟨i - offset, ?_⟩
    rw [List.getElem?_take, if_pos (by omega), List.getElem?_drop, Nat.add_sub_cancel' hle]
    exact hi

/-! ### Pages -/

section Page

variable {limit : ℕ} (hlimit : 0 < limit)

include hlimit

/-- A page holds the positions that its number says. -/
theorem mem_page_iff {p : ℕ} {l : List α} {x : α} :
    x ∈ page limit p l ↔ ∃ i, i / limit = p - 1 ∧ l[i]? = some x := by
  rw [page, mem_window_iff]
  refine exists_congr fun i => ?_
  rw [← and_assoc, Nat.div_eq_iff hlimit]
  refine and_congr_left fun _ => ⟨fun h => ⟨by omega, by omega⟩, fun h => ⟨by omega, by omega⟩⟩

theorem lt_pageCount_iff {p n : ℕ} (hp : 1 ≤ p) : p < pageCount limit n ↔ p * limit < n := by
  have hceil : p < n ⌈/⌉ limit ↔ p * limit < n := by
    rw [← not_le, ceilDiv_le_iff_le_mul hlimit, not_le, mul_comm]
  unfold pageCount
  rw [lt_max_iff, hceil]
  exact or_iff_right (by omega)

/-- **One page.**  In a list without repetition every element is on exactly one of the pages. -/
theorem existsUnique_mem_page {l : List α} (hl : l.Nodup) {x : α} (hx : x ∈ l) :
    ∃! p, (1 ≤ p ∧ p ≤ pageCount limit l.length) ∧ x ∈ page limit p l := by
  obtain ⟨i, hi⟩ := List.mem_iff_getElem?.mp hx
  have hlt : i < l.length := (List.getElem?_eq_some_iff.mp hi).1
  refine ⟨i / limit + 1, ⟨⟨Nat.le_add_left .., ?_⟩, ?_⟩, ?_⟩
  · -- a page is counted once its first position is in the list
    rcases Nat.eq_zero_or_pos (i / limit) with h0 | hpos
    · rw [h0]
      exact Nat.le_max_left ..
    · exact (lt_pageCount_iff hlimit hpos).mpr ((Nat.div_mul_le_self ..).trans_lt hlt)
  · exact (mem_page_iff hlimit).mpr ⟨i, rfl, hi⟩
  · rintro q ⟨⟨hq, -⟩, hmem⟩
    obtain ⟨j, hj, hjx⟩ := (mem_page_iff hlimit).mp hmem
    obtain rfl : i = j := (List.getElem?_inj hlt hl).mp (hi.trans hjx.symm)
    rw [hj, Nat.sub_add_cancel hq]

/-- **Full pages.**  Every page before the last is full. -/
theorem length_page_of_lt {p : ℕ} {l : List α} (hp : 1 ≤ p) (hlt : p < pageCount limit l.length) :
    (page limit p l).length = limit := by
  have h := (lt_pageCount_iff hlimit hp).mp hlt
  have hsplit : p * limit = (p - 1) * limit + limit := by
    conv_lhs => rw [← Nat.sub_add_cancel hp, Nat.add_mul, Nat.one_mul]
  rw [page, window, List.length_take, List.length_drop]
  omega

/-- Every page up to the last has elements, if there are any. -/
theorem eq_nil_of_page_eq_nil {p : ℕ} {l : List α} (hp : 1 ≤ p)
    (hle : p ≤ pageCount limit l.length) (h : page limit p l = []) : l = [] := by
  rw [page, window, List.take_eq_nil_iff, List.drop_eq_nil_iff] at h
  have hlength : l.length ≤ (p - 1) * limit := h.resolve_left (by omega)
  rcases Nat.eq_or_lt_of_le hp with rfl | hlt
  · exact List.eq_nil_of_length_eq_zero (by omega)
  · -- the page before is not the last one
    have := (lt_pageCount_iff hlimit (by omega)).mp (by omega : p - 1 < pageCount limit l.length)
    omega

/-- **After the last page.** -/
theorem page_eq_nil_of_lt {p : ℕ} {l : List α} (hlt : pageCount limit l.length < p) :
    page limit p l = [] := by
  have hp : 1 ≤ p - 1 := by
    have : 1 ≤ pageCount limit l.length := Nat.le_max_left ..
    omega
  have hle : l.length ≤ (p - 1) * limit := by
    by_contra hgt
    have h := (lt_pageCount_iff hlimit hp).mpr (Nat.lt_of_not_le hgt)
    omega
  rw [page, window, List.drop_eq_nil_of_le hle, List.take_nil]

end Page

end Biblio
