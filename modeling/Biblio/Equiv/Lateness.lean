import Biblio.Equiv.Statement

/-!
# Lateness

A loan is late once the clock is past its due date.  While it is open the clock is read with its
microseconds; once it is returned the stored return date is read, from which the column has dropped
them.  The due date is a whole second, so the two agree at every instant but those inside the second
that begins at the due date (`SecondeLimite`): there the clock is already past the due date, and the
date it is stored as is not (`enRetard_rendu_iff`).

The status of the PDF sheet is computed a second time, in its template, and agrees with the entity
on every open loan (`statutDossier_eq_enRetard_iff`).
-/

namespace Biblio

open Prog

variable (plus15Jours : Datetime → Datetime)

/-- The loan `emprunt`, once it is returned at the instant `t` and reloaded. -/
def EmpruntRow.rendu (emprunt : EmpruntRow) (t : Instant) : EmpruntRow :=
  { emprunt with dateRetour := some (toDatetime t) }

/-- The instant lies inside the second that begins at the due date of the loan. -/
def SecondeLimite (emprunt : EmpruntRow) (t : Instant) : Prop :=
  toInstant (plus15Jours emprunt.dateEmprunt) < t ∧
    t < toInstant (plus15Jours emprunt.dateEmprunt + 1)

/-- Lateness is monotone for the open loan `emprunt`, its return at the instant `t` freezes it, and
the PDF sheet shows it. -/
structure RetardFidele (s : Tables) (emprunt : EmpruntRow) (t : Instant) : Prop where
  monotone : ∀ t₁ t₂, t₁ ≤ t₂ → getIsEnRetard plus15Jours emprunt t₁ = true →
    getIsEnRetard plus15Jours emprunt t₂ = true
  fige : ∃ rendu, ((EmpruntCrudController.rendreLivre emprunt.id t).after s).emprunt.find emprunt.id
      = some rendu ∧ ∀ t', t ≤ t' →
    getIsEnRetard plus15Jours rendu t' = getIsEnRetard plus15Jours emprunt t
  fiche : ∀ e ∈ s.emprunt.rows ++ ((EmpruntCrudController.rendreLivre emprunt.id t).after
      s).emprunt.rows, ∀ t', statutDossier plus15Jours e t' = .enRetard ↔
    e.dateRetour = none ∧ getIsEnRetard plus15Jours e t' = true

/-! ### The three computations -/

/-- A whole second is before the instant that the column keeps exactly when the next one is not
after the instant itself. -/
theorem lt_floor_iff (d t : ℤ) :
    d * 1000000 < t / 1000000 * 1000000 ↔ (d + 1) * 1000000 ≤ t := by
  omega

theorem enRetard_open_iff {emprunt : EmpruntRow} (hopen : emprunt.dateRetour = none) (t : Instant) :
    getIsEnRetard plus15Jours emprunt t = true ↔
      toInstant (plus15Jours emprunt.dateEmprunt) < t := by
  simp [getIsEnRetard, hopen]

/-- The stored return date is past the due date once a whole second has gone by. -/
theorem enRetard_rendu_iff (emprunt : EmpruntRow) (t t' : Instant) :
    getIsEnRetard plus15Jours (emprunt.rendu t) t' = true ↔
      toInstant (plus15Jours emprunt.dateEmprunt + 1) ≤ t := by
  have hdate : getIsEnRetard plus15Jours (emprunt.rendu t) t' = true ↔
      toInstant (plus15Jours emprunt.dateEmprunt) < toInstant (toDatetime t) := by
    simp [getIsEnRetard, EmpruntRow.rendu]
  rw [hdate]
  exact lt_floor_iff _ t

theorem statutDossier_eq_enRetard_iff (emprunt : EmpruntRow) (t : Instant) :
    statutDossier plus15Jours emprunt t = .enRetard ↔
      emprunt.dateRetour = none ∧ getIsEnRetard plus15Jours emprunt t = true := by
  unfold statutDossier getIsEnRetard
  cases emprunt.dateRetour with
  | none => simp
  | some d => simp

/-! ### The return -/

/-- `rendreLivre` stores the return date of an open loan, and no other column changes. -/
theorem find_rendreLivre {s : Tables} {emprunt : EmpruntRow} (t : Instant)
    (hfind : s.emprunt.find emprunt.id = some emprunt) (hopen : emprunt.dateRetour = none) :
    ((EmpruntCrudController.rendreLivre emprunt.id t).after s).emprunt.find emprunt.id
      = some (emprunt.rendu t) := by
  obtain ⟨s', hexec⟩ : ∃ s', exec (EmpruntCrudController.retour emprunt t) s = some s' := by
    simp [EmpruntCrudController.retour, exec, EmpruntRow.toEntity]
  have hafter : (EmpruntCrudController.rendreLivre emprunt.id t).after s = s' := by
    unfold EmpruntCrudController.rendreLivre
    rw [read_bind, after_query, hfind]
    simp only [hopen, ne_eq, not_true_eq_false, if_false, save_bind]
    exact after_flush_singleton hexec _
  obtain ⟨row, hid, hcomplete, hrow, -⟩ := exec_updateEmprunt hfind hexec
  rw [hafter, hrow]
  -- the update is complete, so every column of the row is known
  obtain ⟨hdate, hretour, hu, hl⟩ := hcomplete
  obtain ⟨id, dateEmprunt, dateRetour, utilisateur, livre⟩ := row
  obtain rfl : id = emprunt.id := hid
  obtain rfl : emprunt.dateEmprunt = dateEmprunt := Option.some.inj hdate
  obtain rfl : some (toDatetime t) = dateRetour := hretour
  obtain rfl : emprunt.utilisateur = utilisateur := Option.some.inj hu
  obtain rfl : emprunt.livre = livre := Option.some.inj hl
  rfl

/-- The return freezes lateness exactly outside the second of the due date. -/
theorem fige_iff {emprunt : EmpruntRow} (hopen : emprunt.dateRetour = none) (t : Instant) :
    (∀ t', t ≤ t' → getIsEnRetard plus15Jours (emprunt.rendu t) t'
        = getIsEnRetard plus15Jours emprunt t) ↔ ¬ SecondeLimite plus15Jours emprunt t := by
  have hafter := enRetard_rendu_iff plus15Jours emprunt t
  have hbefore := enRetard_open_iff plus15Jours hopen t
  have hlt : toInstant (plus15Jours emprunt.dateEmprunt)
      < toInstant (plus15Jours emprunt.dateEmprunt + 1) :=
    Int.mul_lt_mul_of_pos_right (Int.lt_add_one_iff.mpr (Int.le_refl _)) (by decide)
  constructor
  · rintro hfige ⟨hpast, hwithin⟩
    have hlate := (hafter t).mp ((hfige t (Int.le_refl t)).trans (hbefore.mpr hpast))
    exact absurd hlate (Int.not_le.mpr hwithin)
  · intro hout t' _
    rw [Bool.eq_iff_iff, hafter, hbefore]
    constructor
    · intro hlate
      exact Int.lt_of_lt_of_le hlt hlate
    · intro hpast
      exact Int.not_lt.mp fun hwithin => hout ⟨hpast, hwithin⟩

/-- **Lateness.**  For every open loan and every instant of its return: lateness is monotone while
the loan is open, it is frozen by the return and the PDF sheet shows it, exactly when the return is
not recorded inside the second that begins at the due date. -/
theorem lateness_frozen_iff (s : Tables) (emprunt : EmpruntRow)
    (hfind : s.emprunt.find emprunt.id = some emprunt) (hopen : emprunt.dateRetour = none)
    (t : Instant) :
    RetardFidele plus15Jours s emprunt t ↔ ¬ SecondeLimite plus15Jours emprunt t := by
  have hrendu := find_rendreLivre t hfind hopen
  rw [← fige_iff plus15Jours hopen]
  constructor
  · intro h
    obtain ⟨rendu, hfind', hfige⟩ := h.fige
    obtain rfl : emprunt.rendu t = rendu := Option.some.inj (hrendu.symm.trans hfind')
    exact hfige
  · intro hfige
    refine ⟨fun t₁ t₂ hle hlate => ?_, ⟨_, hrendu, hfige⟩, fun e _ t' =>
      statutDossier_eq_enRetard_iff plus15Jours e t'⟩
    rw [enRetard_open_iff plus15Jours hopen] at hlate ⊢
    exact Int.lt_of_lt_of_le hlate hle

/-- A loan returned a day after its due date. -/
theorem lateness_frozen_next_day :
    let s := Exemple.tables (Table.empty.insert ⟨0, 0, none, 5, 1⟩) .empty
    RetardFidele (fun d => d + 1296000) s ⟨1, 0, none, 5, 1⟩ 1382400000000 := by
  intro s
  refine (lateness_frozen_iff _ s ⟨1, 0, none, 5, 1⟩ (by decide) rfl _).mpr ?_
  rintro ⟨-, hlt⟩
  exact absurd hlt (by decide)

/-- Half a second after the due date a loan is late; returned at that instant it is not. -/
theorem lateness_lost_within_due_second :
    let s := Exemple.tables (Table.empty.insert ⟨0, 0, none, 5, 1⟩) .empty
    let emprunt : EmpruntRow := ⟨1, 0, none, 5, 1⟩
    let t : Instant := 1296000500000
    s.emprunt.find 1 = some emprunt ∧ getIsEnRetard (fun d => d + 1296000) emprunt t = true ∧
      ((EmpruntCrudController.rendreLivre 1 t).after s).emprunt.find 1
        = some ⟨1, 0, some 1296000, 5, 1⟩ ∧
      getIsEnRetard (fun d => d + 1296000) ⟨1, 0, some 1296000, 5, 1⟩ t = false ∧
      ¬ RetardFidele (fun d => d + 1296000) s emprunt t := by
  intro s emprunt t
  have hstored : ((EmpruntCrudController.rendreLivre 1 t).after s).emprunt.find 1
      = some ⟨1, 0, some 1296000, 5, 1⟩ := by decide
  refine ⟨by decide, by decide, hstored, by decide, fun h => ?_⟩
  obtain ⟨rendu, hfind, hfige⟩ := h.fige
  obtain rfl := Option.some.inj (hstored.symm.trans hfind)
  exact absurd (hfige t (Int.le_refl t)) (by decide)

end Biblio
