import Biblio.Equiv.Exclusion

/-!
# Two ways to turn a reservation into a loan

`transformerEnEmprunt` checks the loan with the validator and removes the reservation it was called
on.  The page NEW of loans checks it with the validator and again with the loops of
`persistEntity`, and removes the reservation that `findOneBy` finds for the member and the book.
With a loan date, both go through under the same condition (`Convertible`): the two implementations
of the rules agree on an open loan, and a missing member or book is refused by the form here and by
the foreign keys there.  They leave the same tables because a book has at most one reservation in
every state reached from empty tables (`ResasBornees`), so that `findOneBy` finds the one the action
was called on (`conversion_agrees_dated`).

With the loan date left blank, as the help text of its field invites to, the page NEW stores
nothing: the two agree exactly where the action fails as well (`conversion_agrees_iff`).
-/

namespace Biblio

open Prog ReservationsCrudController

/-- The form of the loan of a reserved book by its member, with the return date blank. -/
def formulaire (resa : ReservationsRow) (dateEmprunt : Option Datetime) : Emprunt :=
  ⟨none, dateEmprunt, none, some resa.utilisateur, some resa.livre⟩

/-- The tables after a reservation became an open loan: the loan is new, the reservation is gone. -/
def converti (s : Tables) (resa : ReservationsRow) (dateEmprunt : Datetime) : Tables :=
  { s with
    emprunt := s.emprunt.insert ⟨0, dateEmprunt, none, resa.utilisateur, resa.livre⟩
    reservations := s.reservations.delete resa.id }

/-- The answer of a conversion that succeeds. -/
def converteAvecSucces : Reponse :=
  .flash "success" "La réservation a bien été transformée en emprunt actif."

/-- The checks that a loan of a reserved book by its member meets. -/
structure Convertible (s : Tables) (resa : ReservationsRow) : Prop
    extends Pretable s resa.utilisateur resa.livre where
  hasUtilisateur : s.hasUtilisateur resa.utilisateur = true
  hasLivre : s.hasLivre resa.livre = true

/-! ### `transformerEnEmprunt` -/

/-- The validator accepts the loan of a reservation exactly when the rules of `persistEntity` do. -/
theorem answer_validate_empruntDe (s : Tables) (resa : ReservationsRow) (now : Instant) :
    (EmpruntRulesValidator.validate (empruntDe resa now)).answer s = [] ↔
      Pretable s resa.utilisateur resa.livre := by
  rw [answer_validate_iff rfl]
  constructor
  · intro h
    exact h _ _ rfl rfl rfl
  · intro h u l hu hl _
    obtain rfl := Option.some.inj hu
    obtain rfl := Option.some.inj hl
    exact h

theorem commit_transformation {s : Tables} {resa : ReservationsRow} (now : Instant)
    (hu : s.hasUtilisateur resa.utilisateur = true) (hl : s.hasLivre resa.livre = true) :
    commit (transformation resa now) s = some (converti s resa (toDatetime now)) := by
  simp [transformation, empruntDe, commit, Database.exec, exec, hu, hl, converti]

theorem alone_transformerEnEmprunt {s : Tables} {resa : ReservationsRow} (now : Instant)
    (hresa : s.reservations.find resa.id = some resa) (h : Convertible s resa) :
    (transformerEnEmprunt resa.id now).alone s
      = (converti s resa (toDatetime now), converteAvecSucces) := by
  unfold transformerEnEmprunt
  rw [read_bind, alone_query, hresa]
  simp only
  rw [alone_bind_of_after _ _ _ (EmpruntRulesValidator.after_validate _ s),
    (answer_validate_empruntDe s resa now).mpr h.toPretable]
  exact alone_flush_some (commit_transformation now h.hasUtilisateur h.hasLivre)

/-- A reservation that cannot become a loan stays, and the action does not report a success. -/
theorem alone_transformerEnEmprunt_refus {s : Tables} {resa : ReservationsRow} (now : Instant)
    (hresa : s.reservations.find resa.id = some resa) (h : ¬ Convertible s resa) :
    ((transformerEnEmprunt resa.id now).alone s).1 = s ∧
      ((transformerEnEmprunt resa.id now).alone s).2 ≠ converteAvecSucces := by
  unfold transformerEnEmprunt
  rw [read_bind, alone_query, hresa]
  simp only
  rw [alone_bind_of_after _ _ _ (EmpruntRulesValidator.after_validate _ s)]
  cases hviol : (EmpruntRulesValidator.validate (empruntDe resa now)).answer s with
  | cons erreur erreurs => exact ⟨rfl, by simp [converteAvecSucces]⟩
  | nil =>
    -- the rules hold, so the member or the book is missing, and the insertion is refused
    have hrules := (answer_validate_empruntDe s resa now).mp hviol
    have hfk : ¬ (s.hasUtilisateur resa.utilisateur = true ∧ s.hasLivre resa.livre = true) :=
      fun hfk => h ⟨hrules, hfk.1, hfk.2⟩
    have hnone : commit (transformation resa now) s = none := by
      simp [transformation, empruntDe, commit, Database.exec, exec, hfk]
    simp only [save_bind]
    rw [alone_flush_none hnone]
    exact ⟨rfl, by simp [apresFlush, converteAvecSucces]⟩

/-! ### The page NEW -/

/-- The page accepts the form, with a loan date, exactly when the checks are met. -/
theorem newAccepte_formulaire_iff {s : Tables} {resa : ReservationsRow} (d : Datetime) :
    NewAccepte s (formulaire resa (some d)) resa.utilisateur resa.livre ↔ Convertible s resa :=
  ⟨fun h => ⟨h.toPretable, h.hasUtilisateur, h.hasLivre⟩,
    fun h => ⟨h.toPretable, Option.some_ne_none d, rfl, rfl, h.hasUtilisateur, h.hasLivre⟩⟩

/-- A loan that its page does not accept is not saved. -/
theorem alone_new_refus (services : Services) {s : Tables} {form : Emprunt} {u l : ℕ}
    (now : Instant) (hu : form.utilisateur = some u) (hl : form.livre = some l)
    (h : ¬ NewAccepte s form u l) :
    ((EmpruntCrudController.new form now).alone s).1 = s ∧
      ((EmpruntCrudController.new form now).alone s).2 ≠ .enregistre := by
  rcases cases_empruntNew services s form now with hsame | ⟨ws, f, hecrit, -, -⟩
  · exact hsame
  · cases hecrit with
    | empruntNew hdate hu' hl' hexiste hlibre hquota =>
      obtain rfl := Option.some.inj (hu.symm.trans hu')
      obtain rfl := Option.some.inj (hl.symm.trans hl')
      exact absurd ⟨⟨hlibre, hquota⟩, hdate, hu, hl, hexiste.1, hexiste.2⟩ h

/-- With one reservation for each book, `findOneBy` finds the reservation itself. -/
theorem reservationDe_eq_self {s : Tables} (hs : ResasBornees s) {resa : ReservationsRow}
    (hresa : resa ∈ s.reservations.rows) :
    EmpruntCrudController.reservationDe resa.livre resa.utilisateur s = some resa := by
  obtain ⟨r, hr⟩ : ∃ r, EmpruntCrudController.reservationDe resa.livre resa.utilisateur s
      = some r := by
    rw [← Option.isSome_iff_exists, EmpruntCrudController.reservationDe, List.find?_isSome]
    exact ⟨resa, hresa, by simp⟩
  obtain ⟨hmem, hl, -⟩ := reservationDe_eq_some hr
  rw [hr, hs.unique hmem hresa hl]

theorem avecPret_eq_converti {s : Tables} (hs : ResasBornees s) {resa : ReservationsRow}
    (hresa : resa ∈ s.reservations.rows) (d : Datetime) (now : Instant) :
    avecPret s (formulaire resa (some d)) now resa.utilisateur resa.livre = converti s resa d := by
  unfold avecPret
  rw [reservationDe_eq_self hs hresa]
  rfl

/-! ### Agreement -/

/-- Two requests fail and leave the tables unchanged, or both succeed and leave the tables of the
conversion, each with its own loan date. -/
def MemeIssue (s : Tables) (resa : ReservationsRow) (d d' : Datetime)
    (transformation nouveau : Tables × Reponse) : Prop :=
  (transformation.1 = s ∧ transformation.2 ≠ converteAvecSucces ∧
      nouveau.1 = s ∧ nouveau.2 ≠ .enregistre) ∨
    (transformation = (converti s resa d, converteAvecSucces) ∧
      nouveau = (converti s resa d', .enregistre))

section

variable (services : Services) (s : Tables) (rs : List Requete)

/-- **Two ways to convert, with a loan date.**  In every state reached from an empty table
`reservations`, whatever the loans there were, for every reservation: turning it into a loan and
submitting the form of that loan with a loan date both fail and leave the tables unchanged, or both
succeed and leave the same tables, up to that date. -/
theorem conversion_agrees_dated (hreservations : s.reservations.rows = []) :
    ∀ resa ∈ (executer services s rs).reservations.rows, ∀ (now now' : Instant) (d : Datetime),
      MemeIssue (executer services s rs) resa (toDatetime now) d
        ((transformerEnEmprunt resa.id now).alone (executer services s rs))
        ((EmpruntCrudController.new (formulaire resa (some d)) now').alone
          (executer services s rs)) := by
  intro resa hresa now now' d
  have hs := resasBornees_executer services (.of_rows_eq_nil hreservations) rs
  have hfind := ((executer services s rs).reservations.find_eq_some_iff resa.id resa).mpr
    ⟨hresa, rfl⟩
  by_cases h : Convertible (executer services s rs) resa
  · right
    refine ⟨alone_transformerEnEmprunt now hfind h, ?_⟩
    rw [NewAccepte.alone_new now' ((newAccepte_formulaire_iff d).mpr h),
      avecPret_eq_converti hs hresa]
  · left
    obtain ⟨hsame, hrefus⟩ := alone_transformerEnEmprunt_refus now hfind h
    obtain ⟨hsame', hrefus'⟩ := alone_new_refus services now' rfl rfl
      fun haccepte => h ((newAccepte_formulaire_iff d).mp haccepte)
    exact ⟨hsame, hrefus, hsame', hrefus'⟩

/-- **Two ways to convert.**  In every state of a run and for every reservation: turning it into a
loan and submitting the form of that loan with both dates blank have the same outcome exactly when
the member or the book does not meet the checks of a loan. -/
theorem conversion_agrees_iff : ∀ resa ∈ (executer services s rs).reservations.rows,
    ∀ now now' : Instant,
      MemeIssue (executer services s rs) resa (toDatetime now) (toDatetime now')
          ((transformerEnEmprunt resa.id now).alone (executer services s rs))
          ((EmpruntCrudController.new (formulaire resa none) now').alone (executer services s rs)) ↔
        ¬ Convertible (executer services s rs) resa := by
  intro resa hresa now now'
  have hfind := ((executer services s rs).reservations.find_eq_some_iff resa.id resa).mpr
    ⟨hresa, rfl⟩
  have hvierge : ¬ NewAccepte (executer services s rs) (formulaire resa none) resa.utilisateur
      resa.livre := fun haccepte => haccepte.dateEmprunt rfl
  obtain ⟨hsame', hrefus'⟩ := alone_new_refus services now' rfl rfl hvierge
  constructor
  · rintro (⟨-, hrefus, -, -⟩ | ⟨-, hnouveau⟩) h
    · exact hrefus (congrArg Prod.snd (alone_transformerEnEmprunt now hfind h))
    · exact hrefus' (congrArg Prod.snd hnouveau)
  · intro h
    obtain ⟨hsame, hrefus⟩ := alone_transformerEnEmprunt_refus now hfind h
    exact Or.inl ⟨hsame, hrefus, hsame', hrefus'⟩

end

/-- A reserved book that another member has borrowed: both fail. -/
theorem conversion_agrees_borrowed_book :
    let s := executer Exemple.services (Exemple.tables .empty .empty)
      [.apiCreate 5 1 0, .empruntNew (Exemple.pret 6 1) 0]
    MemeIssue s ⟨1, 0, 5, 1⟩ 2 3 ((transformerEnEmprunt 1 2000000).alone s)
      ((EmpruntCrudController.new (formulaire ⟨1, 0, 5, 1⟩ none) 3000000).alone s) :=
  (conversion_agrees_iff Exemple.services (Exemple.tables .empty .empty)
    [.apiCreate 5 1 0, .empruntNew (Exemple.pret 6 1) 0] ⟨1, 0, 5, 1⟩ (by decide) 2000000
    3000000).mpr fun h => absurd h.libre (by decide)

/-- A reserved book that is free: the action converts the reservation, and the form with both dates
blank ends in an exception. -/
theorem conversion_differs_free_book :
    let s := executer Exemple.services (Exemple.tables .empty .empty) [.apiCreate 5 1 0]
    (transformerEnEmprunt 1 2000000).answer s = converteAvecSucces ∧
      (EmpruntCrudController.new (formulaire ⟨1, 0, 5, 1⟩ none) 3000000).answer s
        = .exception 500 "Expected argument of type DateTime, null given" ∧
      ¬ MemeIssue s ⟨1, 0, 5, 1⟩ 2 3 ((transformerEnEmprunt 1 2000000).alone s)
        ((EmpruntCrudController.new (formulaire ⟨1, 0, 5, 1⟩ none) 3000000).alone s) := by
  intro s
  have hconvertie : (transformerEnEmprunt 1 2000000).answer s = converteAvecSucces := by decide
  have hexception : (EmpruntCrudController.new (formulaire ⟨1, 0, 5, 1⟩ none) 3000000).answer s
      = .exception 500 "Expected argument of type DateTime, null given" := by decide
  refine ⟨hconvertie, hexception, ?_⟩
  rintro (⟨-, hrefus, -, -⟩ | ⟨-, hnouveau⟩)
  · exact hrefus hconvertie
  · exact absurd (hexception.symm.trans (congrArg Prod.snd hnouveau)) (by decide)

end Biblio
