import Biblio.Equiv.OneFlush

/-!
# The units of work of the requests

Whatever the contents its queries see, a request reads and then answers, or makes one last unit of
work (`endsBy_requete`).  `Unite` lists the units of work of each request, with what the handler
knows of them from the request alone and from the row it has read: the row an `UPDATE` rewrites is
the one the request names, and the values that the request does not set are those of that row.
-/

namespace Biblio

open Prog

/-- A column that gets a value it had, or the new one. -/
theorem changed_eq_or {β : Type} [DecidableEq β] (original new current : β) :
    changed original new current = current ∨ changed original new current = new := by
  unfold changed
  split_ifs
  · exact Or.inl rfl
  · exact Or.inr rfl

/-- The units of work a request may end by, in any interleaving. -/
inductive Unite (services : Services) : Requete → List Statement → Prop
  | empruntNew {form : Emprunt} {now : Instant} (resa : Option ReservationsRow) :
      Unite services (.empruntNew form now)
        (EmpruntCrudController.persistStatements { form with id := none } resa)
  | empruntEdit {entityId : ℕ} {form : Emprunt} (row : EmpruntRow) :
      Unite services (.empruntEdit entityId form)
        [.updateEmprunt entityId row { form with id := some entityId }]
  | empruntDelete {entityId : ℕ} :
      Unite services (.empruntDelete entityId) [.deleteEmprunt entityId]
  | rendreLivre {entityId : ℕ} {now : Instant} (row : EmpruntRow) (hid : row.id = entityId) :
      Unite services (.rendreLivre entityId now) [EmpruntCrudController.retour row now]
  | transformerEnEmprunt {entityId : ℕ} {now : Instant} (resa : ReservationsRow) :
      Unite services (.transformerEnEmprunt entityId now)
        (ReservationsCrudController.transformation resa now)
  | reservationsNew {form : Reservations} :
      Unite services (.reservationsNew form) [.insertReservations { form with id := none }]
  | reservationsEdit {entityId : ℕ} {form : Reservations} (row : ReservationsRow) :
      Unite services (.reservationsEdit entityId form)
        [.updateReservations entityId row { form with id := some entityId }]
  | reservationsDelete {entityId : ℕ} :
      Unite services (.reservationsDelete entityId) [.deleteReservations entityId]
  | apiCreate {user livre : ℕ} {now : Instant} :
      Unite services (.apiCreate user livre now)
        [.insertReservations ⟨none, some (toDatetime now), some user, some livre⟩]
  | apiDelete {user reservation : ℕ} :
      Unite services (.apiDelete user reservation) [.deleteReservations reservation]
  | register {data : Json} {sel : ℕ} (email nom prenom hash : String) :
      Unite services (.register data sel)
        [.insertUtilisateur (RegisterController.nouveau email nom prenom hash)]
  | updateMe {user : ℕ} {data : Json} (row : UtilisateurRow) (email : String)
      (adressePostale numTel : Option String) (hid : row.id = user) :
      Unite services (.updateMe user data)
        [.updateUtilisateur row.id row { row.toEntity with
          email := some email, adressePostale := adressePostale, numTel := numTel }]
  | upgradePassword {user : ℕ} {newHashedPassword : String} (row : UtilisateurRow) :
      Unite services (.upgradePassword user newHashedPassword)
        [.updateUtilisateur user row { row.toEntity with password := some newHashedPassword }]
  | utilisateurNew {acteur : List String} {form : UtilisateurCrudController.Form} {sel : ℕ}
      {today : Date} (password : Option String)
      (hbiblio : isGranted acteur "ROLE_BIBLIO" = true) :
      Unite services (.utilisateurNew acteur form sel today)
        [.insertUtilisateur { form.bind UtilisateurCrudController.vide with password := password }]
  | utilisateurEdit {acteur : List String} {entityId : ℕ} {form : UtilisateurCrudController.Form}
      {sel : ℕ} {today : Date} (row : UtilisateurRow) (password : String) (hid : row.id = entityId)
      (hbiblio : isGranted acteur "ROLE_BIBLIO" = true) :
      Unite services (.utilisateurEdit acteur entityId form sel today)
        [.updateUtilisateur row.id row { form.bind row.toEntity with password := some password }]
  | utilisateurDelete {acteur : List String} {entityId : ℕ} (resas : List ReservationsRow)
      (hadmin : isGranted acteur "ROLE_ADMIN" = true) :
      Unite services (.utilisateurDelete acteur entityId)
        (resas.map (fun r => .deleteReservations r.id) ++ [.deleteUtilisateur entityId])
  | livreNew {acteur : List String} {form : Livre}
      (hadmin : isGranted acteur "ROLE_ADMIN" = true) :
      Unite services (.livreNew acteur form) [.insertLivre form]
  | livreEdit {acteur : List String} {entityId : ℕ} {form : Livre} (row : LivreRow)
      (hadmin : isGranted acteur "ROLE_ADMIN" = true) :
      Unite services (.livreEdit acteur entityId form) [.updateLivre entityId row form]
  | livreDelete {acteur : List String} {entityId : ℕ} (resas : List ReservationsRow)
      (hadmin : isGranted acteur "ROLE_ADMIN" = true) :
      Unite services (.livreDelete acteur entityId)
        (resas.map (fun r => .deleteReservations r.id) ++ [.deleteLivre entityId])

/-- A handler that reads, and then answers or makes a unit of work of the request `r`. -/
abbrev FinitPar (services : Services) (r : Requete) (p : Handler) : Prop :=
  p.EndsBy (fun _ => True) fun ws _ => Unite services r ws

theorem readOnly_validateResa (r : Reservations) :
    ReadOnly (ReservationRulesValidator.validate r) := by
  unfold ReservationRulesValidator.validate
  split
  · exact .query fun _ => .query fun _ => .query fun _ => .done trivial
  · exact .done trivial

/-- A role that is asked for and refused, or the rest of the handler. -/
theorem not_granted {acteur : List String} {role : String}
    (h : ¬ (!isGranted acteur role) = true) : isGranted acteur role = true := by
  simpa using h

variable (services : Services)

/-! ### Loans -/

theorem finitPar_empruntNew (form : Emprunt) (now : Instant) :
    FinitPar services (.empruntNew form now) (EmpruntCrudController.new form now) := by
  unfold EmpruntCrudController.new
  refine (readOnly_choixUtilisateur _).bind fun v => (readOnly_choixLivre _).bind fun v' => ?_
  split
  · exact .done trivial
  next hdate =>
  split
  · refine (readOnly_validate _).bind fun violations => ?_
    split
    · unfold EmpruntCrudController.persistEntity
      split
      · exact .done trivial
      rw [read_bind]
      refine .query fun s => ?_
      split
      · exact .done trivial
      split
      · exact .done trivial
      rw [read_bind]
      refine .query fun s => ?_
      split
      · exact .done trivial
      · rw [Emprunt.dater_eq hdate]
        exact .query fun s => .flush (.empruntNew _)
    · exact .done trivial
  · exact .done trivial

theorem finitPar_transformerEnEmprunt (entityId : ℕ) (now : Instant) :
    FinitPar services (.transformerEnEmprunt entityId now)
      (ReservationsCrudController.transformerEnEmprunt entityId now) := by
  unfold ReservationsCrudController.transformerEnEmprunt
  rw [read_bind]
  refine .query fun s => ?_
  split
  · exact .done trivial
  · next resa hresa =>
    refine (readOnly_validate _).bind fun erreurs => ?_
    cases erreurs with
    | cons => exact .done trivial
    | nil => exact .flush (.transformerEnEmprunt resa)

theorem finitPar_empruntDelete (entityId : ℕ) :
    FinitPar services (.empruntDelete entityId) (EmpruntCrudController.delete entityId) := by
  unfold EmpruntCrudController.delete
  rw [read_bind]
  refine .query fun s => ?_
  split
  · exact .done trivial
  · exact .flush .empruntDelete

/-! ### Reservations -/

theorem finitPar_reservationsNew (form : Reservations) :
    FinitPar services (.reservationsNew form) (ReservationsCrudController.new form) := by
  unfold ReservationsCrudController.new
  refine (readOnly_choixUtilisateur _).bind fun v => (readOnly_choixLivre _).bind fun v' => ?_
  split
  · exact .done trivial
  split
  · refine (readOnly_validateResa _).bind fun violations => ?_
    split
    · exact .flush .reservationsNew
    · exact .done trivial
  · exact .done trivial

theorem finitPar_reservationsEdit (entityId : ℕ) (form : Reservations) :
    FinitPar services (.reservationsEdit entityId form)
      (ReservationsCrudController.edit entityId form) := by
  unfold ReservationsCrudController.edit
  rw [read_bind]
  refine .query fun s => ?_
  split
  · exact .done trivial
  · next row hrow =>
    refine (readOnly_choixUtilisateur _).bind fun v => (readOnly_choixLivre _).bind fun v' => ?_
    split
    · exact .done trivial
    split
    · refine (readOnly_validateResa _).bind fun violations => ?_
      split
      · exact .flush (.reservationsEdit row)
      · exact .done trivial
    · exact .done trivial

theorem finitPar_reservationsDelete (entityId : ℕ) :
    FinitPar services (.reservationsDelete entityId)
      (ReservationsCrudController.delete entityId) := by
  unfold ReservationsCrudController.delete
  rw [read_bind]
  refine .query fun s => ?_
  split
  · exact .done trivial
  · exact .flush .reservationsDelete

/-- `create` from its first rule on. -/
theorem finitPar_regleQuota (user livre : ℕ) (now : Instant) :
    FinitPar services (.apiCreate user livre now)
      (ReservationsController.regleQuota user livre now) := by
  unfold ReservationsController.regleQuota
  rw [read_bind]
  refine .query fun s => ?_
  split
  · exact .done trivial
  unfold ReservationsController.regleReserve
  rw [read_bind]
  refine .query fun s => ?_
  split
  · exact .done trivial
  unfold ReservationsController.regleEmprunt
  rw [read_bind]
  refine .query fun s => ?_
  split
  · exact .done trivial
  · exact .flush .apiCreate

theorem finitPar_apiCreate (user livre : ℕ) (now : Instant) :
    FinitPar services (.apiCreate user livre now)
      (ReservationsController.create user livre now) := by
  unfold ReservationsController.create
  rw [read_bind]
  refine .query fun s => ?_
  split
  · exact .done trivial
  unfold ReservationsController.resoudreLivre
  rw [read_bind]
  refine .query fun s => ?_
  split
  · exact .done trivial
  · exact finitPar_regleQuota services user livre now

theorem finitPar_apiDelete (user reservation : ℕ) :
    FinitPar services (.apiDelete user reservation)
      (ReservationsController.delete user reservation) := by
  unfold ReservationsController.delete
  rw [read_bind]
  refine .query fun s => ?_
  split
  · exact .done trivial
  unfold ReservationsController.resoudreReservation
  rw [read_bind]
  refine .query fun s => ?_
  split
  · exact .done trivial
  · split
    · exact .done trivial
    · exact .flush .apiDelete

/-! ### Accounts -/

theorem finitPar_register (data : Json) (sel : ℕ) :
    FinitPar services (.register data sel) (RegisterController.register services data sel) := by
  unfold RegisterController.register
  split
  · exact .done trivial
  split
  · split
    · exact .done trivial
    · exact .flush (.register ..)
  · exact .done trivial

theorem finitPar_updateMe (user : ℕ) (data : Json) :
    FinitPar services (.updateMe user data) (UserController.updateMe user data) := by
  have hsuite : ∀ (row : UtilisateurRow) (email : String), row.id = user →
      FinitPar services (.updateMe user data) (UserController.updateMeSuite row data email) := by
    intro row email hid
    unfold UserController.updateMeSuite
    split
    · exact .flush (.updateMe row email _ _ hid)
    · exact .done trivial
  unfold UserController.updateMe
  rw [read_bind]
  refine .query fun s => ?_
  split
  · exact .done trivial
  · next row hrow =>
    have hid : row.id = user := Table.key_of_find hrow
    split
    · exact .done trivial
    · split
      · rw [read_bind]
        refine .query fun s => ?_
        split
        · exact .done trivial
        split
        · exact .done trivial
        · exact hsuite row _ hid
      · exact hsuite row _ hid

theorem finitPar_upgradePassword (user : ℕ) (newHashedPassword : String) :
    FinitPar services (.upgradePassword user newHashedPassword)
      (UtilisateurRepository.upgradePassword user newHashedPassword) := by
  unfold UtilisateurRepository.upgradePassword
  rw [read_bind]
  refine .query fun s => ?_
  split
  · exact .done trivial
  · exact .flush (.upgradePassword _)

theorem finitPar_utilisateurNew (acteur : List String) (form : UtilisateurCrudController.Form)
    (sel : ℕ) (today : Date) :
    FinitPar services (.utilisateurNew acteur form sel today)
      (UtilisateurCrudController.new services acteur form sel today) := by
  unfold UtilisateurCrudController.new
  split
  · exact .done trivial
  next hbiblio =>
  split
  · exact .done trivial
  split
  · exact .done trivial
  dsimp only
  split
  · unfold UtilisateurCrudController.persistEntity
    split
    · split
      · exact .done trivial
      · exact .flush (.utilisateurNew _ (not_granted hbiblio))
    · exact .flush (.utilisateurNew form.password (not_granted hbiblio))
  · exact .done trivial

theorem finitPar_utilisateurEdit (acteur : List String) (entityId : ℕ)
    (form : UtilisateurCrudController.Form) (sel : ℕ) (today : Date) :
    FinitPar services (.utilisateurEdit acteur entityId form sel today)
      (UtilisateurCrudController.edit services acteur entityId form sel today) := by
  unfold UtilisateurCrudController.edit
  split
  · exact .done trivial
  next hbiblio =>
  rw [read_bind]
  refine .query fun s => ?_
  split
  · exact .done trivial
  next row hrow =>
  have hid : row.id = entityId := Table.key_of_find hrow
  split
  · exact .done trivial
  split
  · exact .done trivial
  dsimp only
  split
  · unfold UtilisateurCrudController.updateEntity
    dsimp only
    split
    · exact .done trivial
    split
    · split
      · exact .done trivial
      · exact .flush (.utilisateurEdit row _ hid (not_granted hbiblio))
    · exact .flush (.utilisateurEdit row _ hid (not_granted hbiblio))
  · exact .done trivial

theorem finitPar_utilisateurDelete (acteur : List String) (entityId : ℕ) :
    FinitPar services (.utilisateurDelete acteur entityId)
      (UtilisateurCrudController.delete acteur entityId) := by
  unfold UtilisateurCrudController.delete
  split
  · exact .done trivial
  next hadmin =>
  rw [read_bind]
  refine .query fun s => ?_
  split
  · exact .done trivial
  · exact .query fun s => .flush (.utilisateurDelete _ (not_granted hadmin))

/-! ### Books -/

theorem finitPar_livreNew (acteur : List String) (form : Livre) :
    FinitPar services (.livreNew acteur form) (LivreCrudController.new services acteur form) := by
  unfold LivreCrudController.new
  split
  · exact .done trivial
  next hadmin =>
  split
  · exact .flush (.livreNew (not_granted hadmin))
  · exact .done trivial

theorem finitPar_livreEdit (acteur : List String) (entityId : ℕ) (form : Livre) :
    FinitPar services (.livreEdit acteur entityId form)
      (LivreCrudController.edit services acteur entityId form) := by
  unfold LivreCrudController.edit
  split
  · exact .done trivial
  next hadmin =>
  rw [read_bind]
  refine .query fun s => ?_
  split
  · exact .done trivial
  split
  · exact .done trivial
  split
  · exact .flush (.livreEdit _ (not_granted hadmin))
  · exact .done trivial

theorem finitPar_livreDelete (acteur : List String) (entityId : ℕ) :
    FinitPar services (.livreDelete acteur entityId)
      (LivreCrudController.delete acteur entityId) := by
  unfold LivreCrudController.delete
  split
  · exact .done trivial
  next hadmin =>
  rw [read_bind]
  refine .query fun s => ?_
  split
  · exact .done trivial
  · exact .query fun s => .flush (.livreDelete _ (not_granted hadmin))

/-- **The shape of a request.** -/
theorem endsBy_requete (r : Requete) : FinitPar services r (r.handler services) := by
  cases r with
  | empruntNew form now => exact finitPar_empruntNew services form now
  | empruntEdit entityId form =>
    exact endsBy_edit (fun _ => trivial) fun row _ => .empruntEdit row
  | empruntDelete entityId => exact finitPar_empruntDelete services entityId
  | rendreLivre entityId now =>
    exact endsBy_rendreLivre (fun _ => trivial) fun row _ hid _ => .rendreLivre row hid
  | transformerEnEmprunt entityId now =>
    exact finitPar_transformerEnEmprunt services entityId now
  | reservationsNew form => exact finitPar_reservationsNew services form
  | reservationsEdit entityId form => exact finitPar_reservationsEdit services entityId form
  | reservationsDelete entityId => exact finitPar_reservationsDelete services entityId
  | apiCreate user livre now => exact finitPar_apiCreate services user livre now
  | apiDelete user reservation => exact finitPar_apiDelete services user reservation
  | register data sel => exact finitPar_register services data sel
  | updateMe user data => exact finitPar_updateMe services user data
  | upgradePassword user newHashedPassword =>
    exact finitPar_upgradePassword services user newHashedPassword
  | utilisateurNew acteur form sel today =>
    exact finitPar_utilisateurNew services acteur form sel today
  | utilisateurEdit acteur entityId form sel today =>
    exact finitPar_utilisateurEdit services acteur entityId form sel today
  | utilisateurDelete acteur entityId =>
    exact finitPar_utilisateurDelete services acteur entityId
  | livreNew acteur form => exact finitPar_livreNew services acteur form
  | livreEdit acteur entityId form => exact finitPar_livreEdit services acteur entityId form
  | livreDelete acteur entityId => exact finitPar_livreDelete services acteur entityId

end Biblio
