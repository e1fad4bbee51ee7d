import Biblio.Requete

/-!
# What the validators decide

The two validators and the two loops of `persistEntity`, as conditions on the numbers of open
loans and of reservations of a book and of a member (`Tables.enCoursLivre` and its companions).
A query that excludes the row being edited counts the others (`Table.others`); excluding the id
`0`, as for a new entity, excludes nothing.
-/

namespace Biblio

open Prog

/-! ### The numbers the rules are about -/

/-- An open loan of the book `l`. -/
def surLivre (l : ℕ) (e : EmpruntRow) : Bool := e.livre == l && e.enCours

/-- An open loan of the member `u`. -/
def parUtilisateur (u : ℕ) (e : EmpruntRow) : Bool := e.utilisateur == u && e.enCours

/-- A reservation of the book `l`. -/
def resaSurLivre (l : ℕ) (r : ReservationsRow) : Bool := r.livre == l

/-- A reservation of the member `u`. -/
def resaParUtilisateur (u : ℕ) (r : ReservationsRow) : Bool := r.utilisateur == u

namespace Tables

/-- The number of open loans of a book. -/
def enCoursLivre (s : Tables) (l : ℕ) : ℕ := s.emprunt.count (surLivre l)

/-- The number of open loans of a member. -/
def enCoursUtilisateur (s : Tables) (u : ℕ) : ℕ := s.emprunt.count (parUtilisateur u)

/-- The number of reservations of a book. -/
def resasLivre (s : Tables) (l : ℕ) : ℕ := s.reservations.count (resaSurLivre l)

/-- The number of reservations of a member. -/
def resasUtilisateur (s : Tables) (u : ℕ) : ℕ := s.reservations.count (resaParUtilisateur u)

end Tables

/-- A rule reports nothing exactly when it is respected. -/
theorem report_eq_nil_iff {c : Prop} [Decidable c] (v : Violation) :
    (if c then [v] else []) = [] ↔ ¬ c := by
  split_ifs with h <;> simp [h]

/-! ### `EmpruntRulesValidator` -/

/-- The loans `EmpruntRulesValidator` lets through: incomplete or returned ones, and those whose
member has fewer than five other open loans and whose book has none. -/
def EmpruntRulesValidator.Accepte (s : Tables) (value : Emprunt) : Prop :=
  ∀ u l, value.utilisateur = some u → value.livre = some l → value.dateRetour = none →
    s.emprunt.others (value.id.getD 0) (parUtilisateur u) < 5 ∧
      s.emprunt.others (value.id.getD 0) (surLivre l) = 0

theorem EmpruntRulesValidator.after_validate (value : Emprunt) (s : Tables) :
    (validate value).after s = s := by
  unfold validate
  split <;> rfl

/-- The two queries of the validator count the other open loans. -/
theorem EmpruntRulesValidator.answer_validate_of_open {value : Emprunt} {u l : ℕ} (s : Tables)
    (hu : value.utilisateur = some u) (hl : value.livre = some l) (hd : value.dateRetour = none) :
    (validate value).answer s
      = (if s.emprunt.others (value.id.getD 0) (parUtilisateur u) ≥ 5 then
          [⟨EmpruntRules.messageMaxEmprunts, "utilisateur"⟩] else [])
        ++ (if s.emprunt.others (value.id.getD 0) (surLivre l) > 0 then
          [⟨EmpruntRules.messageLivreIndisponible, "livre"⟩] else []) := by
  have hlen : ∀ p : EmpruntRow → Bool,
      (s.emprunt.select fun e => p e && e.id != value.id.getD 0).length
        = s.emprunt.others (value.id.getD 0) p := fun p => Table.length_select _ _
  rw [← hlen (parUtilisateur u), ← hlen (surLivre l)]
  unfold validate
  rw [hu, hl, hd]
  rfl

theorem EmpruntRulesValidator.answer_validate_eq_nil_iff (value : Emprunt) (s : Tables) :
    (validate value).answer s = [] ↔ Accepte s value := by
  by_cases hopen : ∃ u l, value.utilisateur = some u ∧ value.livre = some l ∧
      value.dateRetour = none
  · obtain ⟨u, l, hu, hl, hd⟩ := hopen
    rw [answer_validate_of_open s hu hl hd, List.append_eq_nil_iff, report_eq_nil_iff,
      report_eq_nil_iff]
    constructor
    · rintro ⟨h1, h2⟩ u' l' hu' hl' -
      obtain rfl : u = u' := Option.some.inj (hu.symm.trans hu')
      obtain rfl : l = l' := Option.some.inj (hl.symm.trans hl')
      exact ⟨by omega, by omega⟩
    · intro h
      obtain ⟨h1, h2⟩ := h u l hu hl hd
      exact ⟨by omega, by omega⟩
  · -- an incomplete or returned loan is not checked, and the rules say nothing of it
    constructor
    · intro _ u l hu hl hd
      exact absurd ⟨u, l, hu, hl, hd⟩ hopen
    · intro _
      unfold validate
      split
      · next u l hu hl hd => exact absurd ⟨u, l, hu, hl, hd⟩ hopen
      · rfl

/-! ### `ReservationRulesValidator` -/

/-- The reservations `ReservationRulesValidator` lets through: incomplete ones, and those whose
member has fewer than three others and whose book has no other and is not on loan. -/
def ReservationRulesValidator.Accepte (s : Tables) (value : Reservations) : Prop :=
  ∀ u l, value.utilisateur = some u → value.livre = some l →
    s.reservations.others (value.id.getD 0) (resaParUtilisateur u) < 3 ∧
      s.reservations.others (value.id.getD 0) (resaSurLivre l) = 0 ∧ s.enCoursLivre l = 0

theorem ReservationRulesValidator.after_validate (value : Reservations) (s : Tables) :
    (validate value).after s = s := by
  unfold validate
  split <;> rfl

theorem ReservationRulesValidator.answer_validate_of_complete {value : Reservations} {u l : ℕ}
    (s : Tables) (hu : value.utilisateur = some u) (hl : value.livre = some l) :
    (validate value).answer s
      = (if s.reservations.others (value.id.getD 0) (resaParUtilisateur u) ≥ 3 then
          [⟨ReservationRules.messageMaxResa, "utilisateur"⟩] else [])
        ++ (if s.reservations.others (value.id.getD 0) (resaSurLivre l) > 0 then
          [⟨ReservationRules.messageDejaReserve, "livre"⟩] else [])
        ++ (if s.enCoursLivre l > 0 then
          [⟨ReservationRules.messageDejaEmprunte, "livre"⟩] else []) := by
  have hlen : ∀ p : ReservationsRow → Bool,
      (s.reservations.select fun r => p r && r.id != value.id.getD 0).length
        = s.reservations.others (value.id.getD 0) p := fun p => Table.length_select _ _
  have hopen : (s.emprunt.select (surLivre l)).length = s.enCoursLivre l :=
    Table.length_select _ _
  rw [← hlen (resaParUtilisateur u), ← hlen (resaSurLivre l), ← hopen]
  unfold validate
  rw [hu, hl]
  rfl

theorem ReservationRulesValidator.answer_validate_eq_nil_iff (value : Reservations) (s : Tables) :
    (validate value).answer s = [] ↔ Accepte s value := by
  by_cases hfull : ∃ u l, value.utilisateur = some u ∧ value.livre = some l
  · obtain ⟨u, l, hu, hl⟩ := hfull
    rw [answer_validate_of_complete s hu hl, List.append_eq_nil_iff, List.append_eq_nil_iff,
      report_eq_nil_iff, report_eq_nil_iff, report_eq_nil_iff]
    constructor
    · rintro ⟨⟨h1, h2⟩, h3⟩ u' l' hu' hl'
      obtain rfl : u = u' := Option.some.inj (hu.symm.trans hu')
      obtain rfl : l = l' := Option.some.inj (hl.symm.trans hl')
      exact ⟨by omega, by omega, by omega⟩
    · intro h
      obtain ⟨h1, h2, h3⟩ := h u l hu hl
      exact ⟨⟨by omega, by omega⟩, by omega⟩
  · -- an incomplete reservation is not checked
    constructor
    · intro _ u l hu hl
      exact absurd ⟨u, l, hu, hl⟩ hfull
    · intro _
      unfold validate
      split
      · next u l hu hl => exact absurd ⟨u, l, hu, hl⟩ hfull
      · rfl

/-! ### The loops of `persistEntity` -/

/-- `getIsEmprunte` finds an open loan if there is one. -/
theorem getIsEmprunte_eq_any : ∀ l : List EmpruntRow, getIsEmprunte l = l.any EmpruntRow.enCours
  | [] => rfl
  | e :: l => by
    rw [getIsEmprunte, List.any_cons, getIsEmprunte_eq_any l]
    cases h : e.dateRetour with
    | none => simp [EmpruntRow.enCours, h]
    | some d => simp [EmpruntRow.enCours, h]

theorem getIsEmprunte_eq_false_iff (s : Tables) (l : ℕ) :
    getIsEmprunte (s.emprunt.select fun e => e.livre == l) = false ↔ s.enCoursLivre l = 0 := by
  rw [getIsEmprunte_eq_any, List.any_eq_false, Tables.enCoursLivre, Table.count_eq_zero_iff]
  constructor
  · intro h e he
    by_cases hl : (e.livre == l) = true
    · have := h e (Table.mem_select.mpr ⟨he, hl⟩)
      simp [surLivre, this]
    · simp [surLivre, hl]
  · intro h e he
    obtain ⟨he, hl⟩ := Table.mem_select.mp he
    have := h e he
    simpa [surLivre, hl] using this

/-- The counting loop returns the number of open loans of the list. -/
theorem compterEnCours_eq_countP (l : List EmpruntRow) :
    compterEnCours l = l.countP EmpruntRow.enCours := by
  -- the accumulator carries the count of the loans already seen
  have hgo : ∀ (l : List EmpruntRow) (n : ℕ),
      l.foldl (fun n emp => if emp.dateRetour = none then n + 1 else n) n
        = n + l.countP EmpruntRow.enCours := by
    intro l
    induction l with
    | nil => intro n; rfl
    | cons e l ih =>
      intro n
      rw [List.foldl_cons, ih, List.countP_cons]
      cases h : e.dateRetour with
      | none => simp [EmpruntRow.enCours, h]; omega
      | some d => simp [EmpruntRow.enCours, h]
  rw [compterEnCours, hgo l 0, Nat.zero_add]

theorem compterEnCours_eq (s : Tables) (u : ℕ) :
    compterEnCours (s.emprunt.select fun e => e.utilisateur == u) = s.enCoursUtilisateur u := by
  rw [compterEnCours_eq_countP, Table.select, List.countP_filter, Tables.enCoursUtilisateur,
    Table.count]
  refine List.countP_congr fun e _ => ?_
  simp only [parUtilisateur, Bool.and_comm]

end Biblio
