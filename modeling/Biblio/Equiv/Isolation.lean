import Biblio.Api
import Biblio.Equiv.Ecrit
import Biblio.Equiv.Statement

/-!
# Members and each other's rows

A request of the API is made by the account of its token, whatever ids and bodies it carries.
`Isole user s s'` says that only rows of that account differ between two states; it holds for one
request, from what `Ecrit` says of the three that write, and so for every run (`members_isolated`).
-/

namespace Biblio

open Prog

/-- Between two states only the account and the reservations of `user` differ. -/
structure Isole (user : ℕ) (s s' : Tables) : Prop where
  emprunts : s'.emprunt.rows = s.emprunt.rows
  reservations : ∀ r, r.utilisateur ≠ user →
    (r ∈ s'.reservations.rows ↔ r ∈ s.reservations.rows)
  comptes : ∀ r, r.id ≠ user → (r ∈ s'.utilisateur.rows ↔ r ∈ s.utilisateur.rows)

namespace Isole

variable {user : ℕ} {s s' s'' : Tables}

theorem refl (user : ℕ) (s : Tables) : Isole user s s :=
  ⟨rfl, fun _ _ => Iff.rfl, fun _ _ => Iff.rfl⟩

theorem trans (h : Isole user s s') (h' : Isole user s' s'') : Isole user s s'' where
  emprunts := h'.emprunts.trans h.emprunts
  reservations := fun r hr => (h'.reservations r hr).trans (h.reservations r hr)
  comptes := fun r hr => (h'.comptes r hr).trans (h.comptes r hr)

/-- A reservation that is removed was the account's own. -/
theorem removed (h : Isole user s s') {r : ReservationsRow} (hr : r ∈ s.reservations.rows)
    (hgone : r ∉ s'.reservations.rows) : r.utilisateur = user := by
  by_contra hne
  exact hgone ((h.reservations r hne).mpr hr)

/-- A reservation that is added is the account's own. -/
theorem added (h : Isole user s s') {r : ReservationsRow} (hr : r ∈ s'.reservations.rows)
    (hnew : r ∉ s.reservations.rows) : r.utilisateur = user := by
  by_contra hne
  exact hnew ((h.reservations r hne).mp hr)

end Isole

/-! ### One request -/

variable {user : ℕ} {s : Tables}

theorem isole_create (livre : ℕ) (now : Instant) :
    Isole user s ((ReservationsController.create user livre now).after s) := by
  refine apres_induct (P := Isole user s) Exemple.services s (.apiCreate user livre now)
    (.refl user s) fun ws s' hecrit hc => ?_
  cases hecrit with
  | apiCreate =>
    obtain ⟨row, hrow, rfl⟩ := exec_insertReservations (commit_singleton hc)
    have huser : user = row.utilisateur := Option.some.inj hrow.utilisateur
    refine ⟨rfl, fun r hr => ?_, fun _ _ => Iff.rfl⟩
    rw [Table.mem_insert]
    refine or_iff_left ?_
    rintro rfl
    exact hr huser.symm

theorem isole_delete (reservation : ℕ) :
    Isole user s ((ReservationsController.delete user reservation).after s) := by
  refine apres_induct (P := Isole user s) Exemple.services s (.apiDelete user reservation)
    (.refl user s) fun ws s' hecrit hc => ?_
  cases hecrit with
  | apiDelete hresa huser =>
    obtain rfl := Option.some.inj (commit_singleton hc)
    refine ⟨rfl, fun r hr => ?_, fun _ _ => Iff.rfl⟩
    rw [Table.mem_delete]
    refine and_iff_left_of_imp fun hmem hid => hr ?_
    -- the row of this id is the one whose owner was checked
    have heq := s.reservations.eq_of_key_eq hmem (Table.mem_of_find hresa)
      (hid.trans (Table.key_of_find hresa).symm)
    rw [heq, huser]

theorem isole_updateMe (data : Json) :
    Isole user s ((UserController.updateMe user data).after s) := by
  refine apres_induct (P := Isole user s) Exemple.services s (.updateMe user data)
    (.refl user s) fun ws s' hecrit hc => ?_
  cases hecrit with
  | updateMe hfind =>
    have hexec := commit_singleton hc
    have hframe := exec_frame hexec
    obtain rfl := Table.key_of_find hfind
    obtain ⟨row, -, hid, -, -, hmem⟩ := exec_updateUtilisateur hfind hexec
    refine ⟨?_, fun r _ => ?_, fun r hr => ?_⟩
    · rw [hframe.emprunt Relation.noConfusion]
    · rw [hframe.reservations Relation.noConfusion]
    · have hother : r ≠ row := by
        rintro rfl
        exact hr hid
      rw [hmem, or_iff_right hother, and_iff_left hr]

theorem after_get (api : Api) (g : Get) : (g.handler api user).after s = s := by
  cases g with
  | me | mesEmprunts | mesReservations | reservations =>
    simp only [Get.handler, UserController.lireMe, UserActionsController.mesEmprunts,
      UserActionsController.mesReservations, ReservationsController.index, read_bind, after_query]
    split <;> rfl
  | stats =>
    simp only [Get.handler, StatsController.getStats, read_bind, after_query]
    split
    · rfl
    · split_ifs <;> rfl
  | _ => rfl

/-- **One request** of an account touches no row of another. -/
theorem isole_apres (api : Api) (a : AppelMembre) : Isole user s (a.apres api user s) := by
  cases a with
  | create livre now => exact isole_create livre now
  | delete reservation => exact isole_delete reservation
  | updateMe data => exact isole_updateMe data
  | get g =>
    rw [AppelMembre.apres, after_get]
    exact .refl user s

/-! ### What is shown -/

/-- The account, the loans and the reservations of an answer belong to `user`. -/
def Siennes (user : ℕ) : ReponseGet → Prop
  | .utilisateur u emprunts reservations => u.id = user ∧
      (∀ e ∈ emprunts, e.utilisateur = user) ∧ ∀ r ∈ reservations, r.utilisateur = user
  | .emprunts rows => ∀ e ∈ rows, e.utilisateur = user
  | .reservations rows => ∀ r ∈ rows, r.utilisateur = user
  | _ => True

theorem utilisateur_of_mem_getEmprunts {e : EmpruntRow} (h : e ∈ getEmprunts user s) :
    e.utilisateur = user :=
  beq_iff_eq.mp (Table.mem_select.mp h).2

theorem utilisateur_of_mem_getReservations {r : ReservationsRow} (h : r ∈ getReservations user s) :
    r.utilisateur = user :=
  beq_iff_eq.mp (Table.mem_select.mp h).2

/-- The requests on the catalogue show none of these rows. -/
theorem siennes_elim {β : Type} {status : ℕ} {message : String} {f : β → ReponseGet}
    (hf : ∀ x, Siennes user (f x)) (o : Option β) :
    Siennes user (o.elim (.erreur status message) f) := by
  cases o with
  | none => trivial
  | some x => exact hf x

/-- Whatever an account asks for, the answer shows no row of another. -/
theorem siennes_answer (api : Api) (g : Get) : Siennes user ((g.handler api user).answer s) := by
  unfold answer
  cases g with
  | me =>
    simp only [Get.handler, UserController.lireMe, read_bind, alone_query]
    split
    · trivial
    · next row hfind =>
      exact ⟨Table.key_of_find hfind, fun _ => utilisateur_of_mem_getEmprunts,
        fun _ => utilisateur_of_mem_getReservations⟩
  | mesEmprunts =>
    simp only [Get.handler, UserActionsController.mesEmprunts, read_bind, alone_query]
    split
    · trivial
    · exact fun _ => utilisateur_of_mem_getEmprunts
  | mesReservations =>
    simp only [Get.handler, UserActionsController.mesReservations, read_bind, alone_query]
    split
    · trivial
    · exact fun _ => utilisateur_of_mem_getReservations
  | reservations =>
    simp only [Get.handler, ReservationsController.index, read_bind, alone_query]
    split
    · trivial
    · exact fun _ => utilisateur_of_mem_getReservations
  | stats =>
    simp only [Get.handler, StatsController.getStats, read_bind, alone_query]
    split
    · trivial
    · split_ifs <;> trivial
  | livres | livre | auteurs | auteur | categorie =>
    apply siennes_elim
    exact fun _ => trivial
  | categories => trivial

/-! ### Runs -/

/-- **Isolation.**  For any requests of one account, with any ids and bodies: the loans, the
reservations of the other members and the other accounts are the same before and after; every
reservation that is removed or added belongs to the account; and so does every row that its
requests show in the state reached. -/
theorem members_isolated (api : Api) (user : ℕ) (s : Tables) (as : List AppelMembre) :
    let s' := run (fun s a => a.apres api user s) s as
    s'.emprunt.rows = s.emprunt.rows ∧
      (∀ r, r.utilisateur ≠ user → (r ∈ s'.reservations.rows ↔ r ∈ s.reservations.rows)) ∧
      (∀ r, r.id ≠ user → (r ∈ s'.utilisateur.rows ↔ r ∈ s.utilisateur.rows)) ∧
      (∀ r ∈ s.reservations.rows, r ∉ s'.reservations.rows → r.utilisateur = user) ∧
      (∀ r ∈ s'.reservations.rows, r ∉ s.reservations.rows → r.utilisateur = user) ∧
      ∀ g : Get, Siennes user ((g.handler api user).answer s') := by
  intro s'
  have h : Isole user s s' := run_preserves (fun s a => a.apres api user s)
    (fun t a ht => ht.trans (isole_apres api a)) as s (.refl user s)
  exact ⟨h.emprunts, h.reservations, h.comptes, fun _ => h.removed, fun _ => h.added,
    siennes_answer api⟩

end Biblio
