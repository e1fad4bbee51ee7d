import Mathlib.Data.List.Basic

/-!
# Left joins

`leftJoin l f` pairs every row of `l` with each of the rows that `f` joins to it, and with null
where there is none, so that no row of `l` is lost.  A condition on the joined row is not met by
null.
-/

namespace Biblio

variable {α β : Type}

/-- The rows joined to a row: null stands for none. -/
def orNull (rows : List β) : List (Option β) := if rows.isEmpty then [none] else rows.map some

/-- `LEFT JOIN`. -/
def leftJoin (l : List α) (f : α → List β) : List (α × Option β) :=
  l.flatMap fun x => (orNull (f x)).map fun o => (x, o)

theorem some_mem_orNull {rows : List β} {y : β} : some y ∈ orNull rows ↔ y ∈ rows := by
  cases rows with
  | nil => simp [orNull]
  | cons => simp [orNull]

theorem exists_mem_orNull (rows : List β) : ∃ o, o ∈ orNull rows := by
  cases rows with
  | nil => exact ⟨none, List.mem_singleton.mpr rfl⟩
  | cons y rows => exact ⟨some y, List.mem_cons_self ..⟩

/-- A condition that null does not meet is met by one of the joined rows. -/
theorem exists_orNull_iff {rows : List β} {p : β → Bool} :
    (∃ o ∈ orNull rows, o.any p = true) ↔ ∃ y ∈ rows, p y = true := by
  constructor
  · rintro ⟨o, ho, hp⟩
    cases o with
    | none => cases hp
    | some y => exact ⟨y, some_mem_orNull.mp ho, hp⟩
  · rintro ⟨y, hy, hp⟩
    exact ⟨some y, some_mem_orNull.mpr hy, hp⟩

theorem mem_leftJoin {l : List α} {f : α → List β} {x : α} {o : Option β} :
    (x, o) ∈ leftJoin l f ↔ x ∈ l ∧ o ∈ orNull (f x) := by
  unfold leftJoin
  simp only [List.mem_flatMap, List.mem_map, Prod.mk.injEq]
  constructor
  · rintro ⟨_, hx, _, ho, rfl, rfl⟩
    exact ⟨hx, ho⟩
  · rintro ⟨hx, ho⟩
    exact ⟨x, hx, o, ho, rfl, rfl⟩

end Biblio
