import Biblio.Requete

/-!
# Requests that end by one unit of work

The shape of the loan requests as programs: the validator and the form fields only read, and a
request reads and then answers or makes its one unit of work (`Prog.EndsBy`).
-/

namespace Biblio

open Prog

theorem readOnly_validate (e : Emprunt) : ReadOnly (EmpruntRulesValidator.validate e) := by
  unfold EmpruntRulesValidator.validate
  split
  · exact .query fun _ => .query fun _ => .done trivial
  · exact .done trivial

theorem readOnly_choixUtilisateur (o : Option ℕ) : ReadOnly (choixUtilisateur o) := by
  cases o with
  | none => exact .done trivial
  | some id => exact .query fun _ => .done trivial

theorem readOnly_choixLivre (o : Option ℕ) : ReadOnly (choixLivre o) := by
  cases o with
  | none => exact .done trivial
  | some id => exact .query fun _ => .done trivial

/-- `rendreLivre` ends by the return of the loan it has read, which was open. -/
theorem endsBy_rendreLivre {entityId : ℕ} {now : Instant} {A : Reponse → Prop}
    {P : List Statement → (Bool → Reponse) → Prop} (hA : ∀ r, A r)
    (hP : ∀ (row : EmpruntRow) (f : Bool → Reponse), row.id = entityId → row.dateRetour = none →
      P [EmpruntCrudController.retour row now] f) :
    (EmpruntCrudController.rendreLivre entityId now).EndsBy A P := by
  unfold EmpruntCrudController.rendreLivre
  rw [read_bind]
  refine .query fun s => ?_
  split
  · exact .done (hA _)
  · next row hrow =>
    split
    · exact .done (hA _)
    · next hopen => exact .flush (hP row _ (Table.key_of_find hrow) (not_not.mp hopen))

/-- The page EDIT of a loan ends by the update of the row it has loaded, with the values of the
form. -/
theorem endsBy_edit {entityId : ℕ} {form : Emprunt} {A : Reponse → Prop}
    {P : List Statement → (Bool → Reponse) → Prop} (hA : ∀ r, A r)
    (hP : ∀ (row : EmpruntRow) (f : Bool → Reponse),
      P [.updateEmprunt entityId row { form with id := some entityId }] f) :
    (EmpruntCrudController.edit entityId form).EndsBy A P := by
  unfold EmpruntCrudController.edit
  rw [read_bind]
  refine .query fun s => ?_
  split
  · exact .done (hA _)
  · next row hrow =>
    refine (readOnly_choixUtilisateur _).bind fun v => (readOnly_choixLivre _).bind fun v' => ?_
    split
    · exact .done (hA _)
    split
    · refine (readOnly_validate _).bind fun violations => ?_
      split
      · exact .flush (hP row _)
      · exact .done (hA _)
    · exact .done (hA _)

end Biblio
