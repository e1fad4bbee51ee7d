import Biblio.Equiv.Lateness
import Biblio.Equiv.LoanSave

/-!
# Loan dates and return dates

Nothing compares the two dates of a loan.  A form, which must have a loan date, sets both as they
are typed, and the validator leaves a loan with a return date alone; `rendreLivre` records the
current second as the return date, whatever the loan date is.

The dates are in order in every state of a run exactly when each write that sets a return date sets
it no earlier than the loan date (`loan_dates_ordered_iff`).  A request that writes loans adds one
row to a part of those there were, and that row decides (`DatesOrdonnees.of_row`).
-/

namespace Biblio

open Prog

/-- The loan was returned before it was made. -/
def EmpruntRow.inverse (e : EmpruntRow) : Bool :=
  e.dateRetour.any fun dateRetour => decide (dateRetour < e.dateEmprunt)

/-- Every loan that was returned was returned no earlier than it was made. -/
def DatesOrdonnees (s : Tables) : Prop :=
  ∀ e ∈ s.emprunt.rows, ∀ dateRetour, e.dateRetour = some dateRetour → e.dateEmprunt ≤ dateRetour

/-- A request that saves a return date saves one that is no earlier than the loan date.  Of the
forms, those count that the checks of their page let through. -/
def DatesAdmises (s : Tables) : Requete → Prop
  | .empruntNew form _ => ∀ u l, NewAccepte s form u l → ∀ dateEmprunt dateRetour,
      form.dateEmprunt = some dateEmprunt → form.dateRetour = some dateRetour →
        dateEmprunt ≤ dateRetour
  | .empruntEdit entityId form => (s.emprunt.find entityId).isSome = true →
      ∀ u l, Designe s form u l → ∀ dateEmprunt dateRetour, form.dateEmprunt = some dateEmprunt →
        form.dateRetour = some dateRetour → dateEmprunt ≤ dateRetour
  | .rendreLivre entityId now => ∀ row, s.emprunt.find entityId = some row →
      row.dateRetour = none → row.dateEmprunt ≤ toDatetime now
  | _ => True

/-! ### One row -/

theorem EmpruntRow.inverse_eq_false_iff (e : EmpruntRow) :
    e.inverse = false ↔
      ∀ dateRetour, e.dateRetour = some dateRetour → e.dateEmprunt ≤ dateRetour := by
  unfold inverse
  cases e.dateRetour <;> simp

theorem datesOrdonnees_iff_count (s : Tables) :
    DatesOrdonnees s ↔ s.emprunt.count EmpruntRow.inverse = 0 := by
  rw [Table.count_eq_zero_iff]
  exact forall₂_congr fun e _ => e.inverse_eq_false_iff.symm

theorem DatesOrdonnees.of_le {s s' : Tables} (hs : DatesOrdonnees s)
    (h : ∀ p, s'.emprunt.count p ≤ s.emprunt.count p) : DatesOrdonnees s' := by
  rw [datesOrdonnees_iff_count] at hs ⊢
  have := h EmpruntRow.inverse
  omega

theorem DatesOrdonnees.of_eq {s s' : Tables} (hs : DatesOrdonnees s)
    (h : s'.emprunt = s.emprunt) : DatesOrdonnees s' :=
  hs.of_le fun p => Nat.le_of_eq (congrArg (Table.count · p) h)

/-- One row is added to `base`, a part of the loans there were, which are in order. -/
theorem DatesOrdonnees.of_row {s s' : Tables} {base : (EmpruntRow → Bool) → ℕ} {row : EmpruntRow}
    (hs : DatesOrdonnees s) (hle : ∀ p, base p ≤ s.emprunt.count p)
    (hcount : ∀ p, s'.emprunt.count p = base p + (p row).toNat)
    (hrow : ∀ dateRetour, row.dateRetour = some dateRetour → row.dateEmprunt ≤ dateRetour) :
    DatesOrdonnees s' := by
  rw [datesOrdonnees_iff_count] at hs ⊢
  have hbase := hle EmpruntRow.inverse
  rw [hcount, row.inverse_eq_false_iff.mpr hrow, Bool.toNat_false]
  omega

/-! ### One request -/

/-- A request that saves no earlier return date keeps the dates in order. -/
theorem datesOrdonnees_apres (services : Services) {s : Tables} (r : Requete)
    (hs : DatesOrdonnees s) (hok : DatesAdmises s r) : DatesOrdonnees (r.apres services s) := by
  apply apres_induct services s r hs
  intro ws s' hecrit hc
  cases hecrit with
  | @empruntNew form now u l hdate hu hl hexiste hlibre hquota =>
    obtain ⟨row, hrow, rfl⟩ := commit_persistStatements hc
    have hnew : NewAccepte s form u l := ⟨⟨hlibre, hquota⟩, hdate, hu, hl, hexiste.1, hexiste.2⟩
    refine hs.of_row (fun p => Nat.le_refl _) (fun p => Table.count_insert _ _ _) ?_
    intro dateRetour hretour
    exact hok u l hnew _ _ hrow.dateEmprunt (hrow.dateRetour.trans hretour)
  | @empruntEdit entityId form old hrow hdate hu hl hvalide =>
    obtain ⟨row, -, hcomplete, -, hcount⟩ := exec_updateEmprunt hrow (commit_singleton hc)
    refine hs.of_row (fun p => s.emprunt.others_le_count _ p) hcount fun dateRetour hretour => ?_
    have hdesigne : Designe s form row.utilisateur row.livre :=
      ⟨hcomplete.utilisateur, hcomplete.livre, hu _ hcomplete.utilisateur, hl _ hcomplete.livre⟩
    exact hok (by rw [hrow]; rfl) _ _ hdesigne _ _ hcomplete.dateEmprunt
      (hcomplete.dateRetour.trans hretour)
  | empruntDelete =>
    obtain rfl := Option.some.inj (commit_singleton hc)
    exact hs.of_le fun p => Table.count_delete_le _ _ p
  | @rendreLivre entityId now old hrow hopen =>
    obtain rfl := Table.key_of_find hrow
    obtain ⟨row, -, hcomplete, -, hcount⟩ := exec_updateEmprunt hrow (commit_singleton hc)
    refine hs.of_row (fun p => s.emprunt.others_le_count _ p) hcount fun dateRetour hretour => ?_
    -- the loan date is that of the row read, the return date the second of the clock
    obtain rfl : toDatetime now = dateRetour := Option.some.inj (hcomplete.dateRetour.trans hretour)
    have hdate : old.dateEmprunt = row.dateEmprunt := Option.some.inj hcomplete.dateEmprunt
    rw [← hdate]
    exact hok old hrow hopen
  | @transformerEnEmprunt entityId now resa hresa hlibre hquota =>
    have hc : commit (EmpruntCrudController.persistStatements
        (ReservationsCrudController.empruntDe resa now) (some resa)) s = some s' := hc
    obtain ⟨row, hrow, rfl⟩ := commit_persistStatements hc
    refine hs.of_row (fun p => Nat.le_refl _) (fun p => Table.count_insert _ _ _) ?_
    intro dateRetour hretour
    -- a converted reservation is an open loan
    exact absurd (hrow.dateRetour.trans hretour) nofun
  | utilisateurDelete | livreDelete =>
    refine hs.of_eq (commit_emprunt_eq (fun w hw => ?_) hc)
    exact cible_ne_of_mem_deletes Relation.noConfusion Relation.noConfusion hw
  | _ => exact hs.of_eq ((exec_frame (commit_singleton hc)).emprunt Relation.noConfusion)

/-- Only such a request does. -/
theorem datesAdmises_of_apres (services : Services) {s : Tables} (r : Requete)
    (h : DatesOrdonnees (r.apres services s)) : DatesAdmises s r := by
  cases r with
  | empruntNew form now =>
    intro u l hnew dateEmprunt dateRetour hdate hretour
    have hafter : (Requete.empruntNew form now).apres services s = avecPret s form now u l :=
      hnew.after_new now
    rw [hafter] at h
    have hle : form.dateEmprunt.getD (toDatetime now) ≤ dateRetour :=
      h _ (Table.mem_insert.mpr (Or.inr rfl)) dateRetour hretour
    rwa [hdate] at hle
  | empruntEdit entityId form =>
    intro hsome u l hdesigne dateEmprunt dateRetour hdate hretour
    obtain ⟨old, hrow⟩ := Option.isSome_iff_exists.mp hsome
    have hvalide : EmpruntRulesValidator.Accepte s { form with id := some entityId } :=
      fun _ _ _ _ hopen => absurd (hretour.symm.trans hopen) (Option.some_ne_none _)
    obtain ⟨s', hexec, hafter⟩ := hdesigne.after_edit hrow
      (by rw [hdate]; exact Option.some_ne_none _) hvalide
    have hafter : (Requete.empruntEdit entityId form).apres services s = s' := hafter
    rw [hafter] at h
    obtain ⟨row, -, hcomplete, hfind, -⟩ := exec_updateEmprunt hrow hexec
    have hle := h row (Table.mem_of_find hfind) dateRetour (hcomplete.dateRetour.symm.trans hretour)
    rwa [← Option.some.inj (hdate.symm.trans hcomplete.dateEmprunt)] at hle
  | rendreLivre entityId now =>
    intro row hrow hopen
    obtain rfl := Table.key_of_find hrow
    exact h (row.rendu now) (Table.mem_of_find (find_rendreLivre now hrow hopen)) _ rfl
  | _ => trivial

/-! ### Runs -/

/-- **Loan dates.**  From an empty table `emprunt`, whatever the clock: the dates are in order in
every state of a run exactly when every return date that a request of the run saves, typed in a form
or recorded by `rendreLivre`, is no earlier than the loan date. -/
theorem loan_dates_ordered_iff (services : Services) (s : Tables) (hs : s.emprunt.rows = [])
    (rs : List Requete) :
    Along (servir services) (fun s r => DatesOrdonnees (servir services s r)) s rs ↔
      Along (servir services) DatesAdmises s rs := by
  have hs : DatesOrdonnees s := by
    intro e he
    rw [hs] at he
    cases he
  refine along_iff _ (I := DatesOrdonnees) (fun s r hs => ?_) (fun s r _ h => h) rs s hs
  exact ⟨datesAdmises_of_apres services r, datesOrdonnees_apres services r hs⟩

/-- A loan entered with the current second and returned three seconds later. -/
theorem loan_dates_ordered_three_seconds :
    Along (servir Exemple.services)
      (fun s r => DatesOrdonnees (servir Exemple.services s r)) (Exemple.tables .empty .empty)
      [.empruntNew ⟨none, some 1, none, some 5, some 1⟩ 1500000, .rendreLivre 1 4500000] := by
  refine (loan_dates_ordered_iff _ _ rfl _).mpr ⟨?_, ?_, trivial⟩
  · intro u l _ dateEmprunt dateRetour _ hretour
    cases hretour
  · intro row hrow _
    have hfind : (servir Exemple.services (Exemple.tables .empty .empty)
        (.empruntNew ⟨none, some 1, none, some 5, some 1⟩ 1500000)).emprunt.find 1
          = some ⟨1, 1, none, 5, 1⟩ := by
      decide
    obtain rfl := Option.some.inj (hfind.symm.trans hrow)
    decide

/-- A loan is entered with a return date before its loan date, and a loan entered with a date to
come is returned at once. -/
theorem loan_returned_before_it_was_made :
    let s := Exemple.tables .empty .empty
    let saisi : Requete := .empruntNew ⟨none, some 10, some 5, some 5, some 1⟩ 0
    let aVenir : Requete := .empruntNew ⟨none, some 10, none, some 5, some 1⟩ 0
    (executer Exemple.services s [saisi]).emprunt.find 1 = some ⟨1, 10, some 5, 5, 1⟩ ∧
      (executer Exemple.services s [aVenir, .rendreLivre 1 2000000]).emprunt.find 1
        = some ⟨1, 10, some 2, 5, 1⟩ ∧
      ¬ DatesOrdonnees (executer Exemple.services s [saisi]) ∧
      ¬ DatesOrdonnees (executer Exemple.services s [aVenir, .rendreLivre 1 2000000]) := by
  intro s saisi aVenir
  have hsaisi : (executer Exemple.services s [saisi]).emprunt.find 1
      = some ⟨1, 10, some 5, 5, 1⟩ := by decide
  have hrendu : (executer Exemple.services s [aVenir, .rendreLivre 1 2000000]).emprunt.find 1
      = some ⟨1, 10, some 2, 5, 1⟩ := by decide
  refine ⟨hsaisi, hrendu, fun h => ?_, fun h => ?_⟩
  · exact absurd (h _ (Table.mem_of_find hsaisi) 5 rfl) (by decide)
  · exact absurd (h _ (Table.mem_of_find hrendu) 2 rfl) (by decide)

end Biblio
