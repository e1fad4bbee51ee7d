import Biblio.Equiv.Ecrit
import Biblio.Equiv.Statement

/-!
# The pages of the accounts

What the results about the table `utilisateur` share: which requests write it
(`Requete.surComptes`), what a deletion leaves, and when the pages NEW and EDIT of
`UtilisateurCrudController` accept a form (`NewAcceptee`, `EditAcceptee`).
-/

namespace Biblio

open Prog UtilisateurCrudController

/-! ### The requests on accounts -/

/-- The requests that write the table `utilisateur`. -/
def Requete.surComptes : Requete → Bool
  | .register _ _ | .updateMe _ _ | .upgradePassword _ _ | .utilisateurNew _ _ _ _
  | .utilisateurEdit _ _ _ _ _ | .utilisateurDelete _ _ => true
  | _ => false

/-- The other requests leave the accounts as they are. -/
theorem Ecrit.utilisateur_eq {services : Services} {s s' : Tables} {r : Requete}
    {ws : List Statement} (h : Ecrit services s r ws) (hr : r.surComptes = false)
    (hc : commit ws s = some s') : s'.utilisateur = s.utilisateur := by
  refine commit_utilisateur_eq (fun w hw => ?_) hc
  cases h with
  | empruntNew =>
    rcases List.mem_cons.mp hw with rfl | hw
    · exact Relation.noConfusion
    · obtain ⟨id, rfl⟩ := eq_delete_of_mem_toList hw
      exact Relation.noConfusion
  | transformerEnEmprunt =>
    rcases List.mem_cons.mp hw with rfl | hw
    · exact Relation.noConfusion
    · rw [List.mem_singleton.mp hw]
      exact Relation.noConfusion
  | livreDelete =>
    exact cible_ne_of_mem_deletes Relation.noConfusion Relation.noConfusion hw
  | register | updateMe | upgradePassword | utilisateurNew | utilisateurEdit
  | utilisateurDelete => exact Bool.noConfusion hr
  | _ =>
    rw [List.mem_singleton.mp hw]
    exact Relation.noConfusion

/-- What holds of every account, and of those that a request on accounts commits, holds of every
account after any request. -/
theorem comptes_apres {services : Services} {s : Tables} {P : UtilisateurRow → Prop}
    (hs : ∀ row ∈ s.utilisateur.rows, P row) (r : Requete)
    (hws : ∀ ws s', Ecrit services s r ws → r.surComptes ≠ false → commit ws s = some s' →
      ∀ row ∈ s'.utilisateur.rows, P row) :
    ∀ row ∈ (r.apres services s).utilisateur.rows, P row := by
  refine apres_induct services s (P := fun s => ∀ row ∈ s.utilisateur.rows, P row) r hs ?_
  intro ws s' hecrit hc
  by_cases hr : r.surComptes = false
  · rw [hecrit.utilisateur_eq hr hc]
    exact hs
  · exact hws ws s' hecrit hr hc

/-- The deletion of an account, after that of its reservations. -/
theorem commit_utilisateurDelete {s s' : Tables} {resas : List ReservationsRow} {id : ℕ}
    (hc : commit (resas.map (fun r => Statement.deleteReservations r.id)
      ++ [.deleteUtilisateur id]) s = some s') :
    s'.utilisateur = s.utilisateur.delete id := by
  obtain ⟨s₁, h₁, h₂⟩ := commit_append_eq_some hc
  have hsame : s₁.utilisateur = s.utilisateur := by
    refine commit_utilisateur_eq (fun w hw => ?_) h₁
    obtain ⟨resa, -, rfl⟩ := List.mem_map.mp hw
    exact Relation.noConfusion
  rw [exec_deleteUtilisateur (commit_singleton h₂), hsame]

/-! ### Accepted forms -/

@[simp] theorem Form.bind_roles (form : Form) (u : Utilisateur) :
    (form.bind u).roles = form.roles := rfl

@[simp] theorem Form.bind_password (form : Form) (u : Utilisateur) :
    (form.bind u).password = form.password := rfl

/-- The password `updateEntity` stores, if the hasher takes the one submitted. -/
def motDePasse (services : Services) (form : Form) (sel : ℕ) (ancien : String) : Option String :=
  if truthy form.password then services.hashPassword (form.password.getD "") sel else some ancien

/-- The form of the page EDIT of the account `row` is accepted: its roles are offered, its values
meet the constraints of the entity, and the database takes the update. -/
structure EditAcceptee (services : Services) (s : Tables) (acteur : List String) (form : Form)
    (sel : ℕ) (today : Date) (row : UtilisateurRow) : Prop where
  roles : form.roles.all (rolesChoices acteur).contains = true
  nonNull : ¬ (form.email = none ∨ form.dateAdhesion = none)
  violations : (form.bind row.toEntity).violations services today = []
  enregistrable : ∃ password, motDePasse services form sel row.password = some password ∧
    (exec (.updateUtilisateur row.id row
      { form.bind row.toEntity with password := some password }) s).isSome = true

/-- The form of the page NEW is accepted, and the database takes the account as submitted. -/
structure NewAcceptee (services : Services) (s : Tables) (acteur : List String) (form : Form)
    (today : Date) : Prop where
  roles : form.roles.all (rolesChoices acteur).contains = true
  violations : (form.bind vide).violations services today = []
  enregistrable : (exec (.insertUtilisateur (form.bind vide)) s).isSome = true

/-- What was checked before an edition is saved makes it an accepted one. -/
theorem motDePasse_eq_some (services : Services) {form : Form} {sel : ℕ} {ancien password : String}
    (h : (truthy form.password = false ∧ password = ancien) ∨
      ∃ plain, form.password = some plain ∧ truthy form.password = true ∧
        services.hashPassword plain sel = some password) :
    motDePasse services form sel ancien = some password := by
  unfold motDePasse
  rcases h with ⟨hfalse, rfl⟩ | ⟨plain, hplain, htrue, hhash⟩
  · simp [hfalse]
  · rw [if_pos htrue, hplain]
    exact hhash

end Biblio
