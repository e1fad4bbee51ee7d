import Biblio.Equiv.Validator

/-!
# What a request writes

`Ecrit services s r ws`: served alone on the tables `s`, the request `r` may hand the unit of work
`ws` to the database, and the constructor lists what its handler has checked before doing so.
`alone_cases` says that a request does nothing else: it leaves the tables as they are, or as one
such unit of work leaves them.  The results about single requests and about runs start from these
cases and do not look at the handlers again.
-/

namespace Biblio

open Prog

/-- What `updateMe` has decided when it comes to its flush: an email that no row has, or the one
of the account, and the values of the two optional fields. -/
structure UserController.Decide (s : Tables) (row : UtilisateurRow) (data : Json) (email : String)
    (adressePostale numTel : Option String) : Prop where
  donnees : data ≠ .null
  email : if (data.get "email").isset && !(data.get "email").identical row.email then
      (data.get "email").toStringParam = some email ∧
        ∀ r ∈ s.utilisateur.rows, (data.get "email").criteria.any (s.memeEmail r.email) = false
    else email = row.email
  adressePostale : champ data "adressePostale" row.adressePostale = some adressePostale
  numTel : champ data "numTel" row.numTel = some numTel

/-- The units of work of a request served alone, with the conditions its handler has checked. -/
inductive Ecrit (services : Services) (s : Tables) : Requete → List Statement → Prop
  | empruntNew {form : Emprunt} {now : Instant} {u l : ℕ}
      (hdate : form.dateEmprunt ≠ none) (hu : form.utilisateur = some u) (hl : form.livre = some l)
      (hexiste : s.hasUtilisateur u = true ∧ s.hasLivre l = true)
      (hlibre : s.enCoursLivre l = 0) (hquota : s.enCoursUtilisateur u < 5) :
      Ecrit services s (.empruntNew form now)
        (EmpruntCrudController.persistStatements { form with id := none }
          (EmpruntCrudController.reservationDe l u s))
  | empruntEdit {entityId : ℕ} {form : Emprunt} {row : EmpruntRow}
      (hrow : s.emprunt.find entityId = some row) (hdate : form.dateEmprunt ≠ none)
      (hu : ∀ u, form.utilisateur = some u → s.hasUtilisateur u = true)
      (hl : ∀ l, form.livre = some l → s.hasLivre l = true)
      (hok : EmpruntRulesValidator.Accepte s { form with id := some entityId }) :
      Ecrit services s (.empruntEdit entityId form)
        [.updateEmprunt entityId row { form with id := some entityId }]
  | empruntDelete {entityId : ℕ} :
      Ecrit services s (.empruntDelete entityId) [.deleteEmprunt entityId]
  | rendreLivre {entityId : ℕ} {now : Instant} {row : EmpruntRow}
      (hrow : s.emprunt.find entityId = some row) (hopen : row.dateRetour = none) :
      Ecrit services s (.rendreLivre entityId now) [EmpruntCrudController.retour row now]
  | transformerEnEmprunt {entityId : ℕ} {now : Instant} {resa : ReservationsRow}
      (hresa : s.reservations.find entityId = some resa)
      (hlibre : s.enCoursLivre resa.livre = 0)
      (hquota : s.enCoursUtilisateur resa.utilisateur < 5) :
      Ecrit services s (.transformerEnEmprunt entityId now)
        (ReservationsCrudController.transformation resa now)
  | reservationsNew {form : Reservations}
      (hok : ReservationRulesValidator.Accepte s { form with id := none }) :
      Ecrit services s (.reservationsNew form) [.insertReservations { form with id := none }]
  | reservationsEdit {entityId : ℕ} {form : Reservations} {row : ReservationsRow}
      (hrow : s.reservations.find entityId = some row)
      (hok : ReservationRulesValidator.Accepte s { form with id := some entityId }) :
      Ecrit services s (.reservationsEdit entityId form)
        [.updateReservations entityId row { form with id := some entityId }]
  | reservationsDelete {entityId : ℕ} :
      Ecrit services s (.reservationsDelete entityId) [.deleteReservations entityId]
  | apiCreate {user livre : ℕ} {now : Instant} (hquota : s.resasUtilisateur user < 3)
      (hresa : s.resasLivre livre = 0) (hlibre : s.enCoursLivre livre = 0) :
      Ecrit services s (.apiCreate user livre now)
        [.insertReservations ⟨none, some (toDatetime now), some user, some livre⟩]
  | apiDelete {user reservation : ℕ} {resa : ReservationsRow}
      (hresa : s.reservations.find reservation = some resa) (huser : resa.utilisateur = user) :
      Ecrit services s (.apiDelete user reservation) [.deleteReservations reservation]
  | register {data : Json} {sel : ℕ} {email nom prenom plain hash : String}
      (hemail : (data.get "email").toStringParam = some email)
      (hhash : services.hashPassword plain sel = some hash) :
      Ecrit services s (.register data sel)
        [.insertUtilisateur (RegisterController.nouveau email nom prenom hash)]
  | updateMe {user : ℕ} {data : Json} {row : UtilisateurRow} {email : String}
      {adressePostale numTel : Option String} (hrow : s.utilisateur.find user = some row)
      (hdecide : UserController.Decide s row data email adressePostale numTel) :
      Ecrit services s (.updateMe user data)
        [.updateUtilisateur row.id row { row.toEntity with
          email := some email, adressePostale := adressePostale, numTel := numTel }]
  | upgradePassword {user : ℕ} {newHashedPassword : String} {row : UtilisateurRow}
      (hrow : s.utilisateur.find user = some row) :
      Ecrit services s (.upgradePassword user newHashedPassword)
        [.updateUtilisateur user row { row.toEntity with password := some newHashedPassword }]
  | utilisateurNew {acteur : List String} {form : UtilisateurCrudController.Form} {sel : ℕ}
      {today : Date} {password : Option String}
      (hroles : ∀ role ∈ form.roles, role ∈ UtilisateurCrudController.rolesChoices acteur)
      (hviol : (form.bind UtilisateurCrudController.vide).violations services today = [])
      (hpassword : (truthy form.password = false ∧ password = form.password) ∨
        ∃ plain hash, form.password = some plain ∧ truthy form.password = true ∧
          services.hashPassword plain sel = some hash ∧ password = some hash) :
      Ecrit services s (.utilisateurNew acteur form sel today)
        [.insertUtilisateur { form.bind UtilisateurCrudController.vide with password := password }]
  | utilisateurEdit {acteur : List String} {entityId : ℕ} {form : UtilisateurCrudController.Form}
      {sel : ℕ} {today : Date} {row : UtilisateurRow} {password : String}
      (hrow : s.utilisateur.find entityId = some row)
      (hroles : ∀ role ∈ form.roles, role ∈ UtilisateurCrudController.rolesChoices acteur)
      (hnull : ¬ (form.email = none ∨ form.dateAdhesion = none))
      (hviol : (form.bind row.toEntity).violations services today = [])
      (hpassword : (truthy form.password = false ∧ password = row.password) ∨
        ∃ plain, form.password = some plain ∧ truthy form.password = true ∧
          services.hashPassword plain sel = some password) :
      Ecrit services s (.utilisateurEdit acteur entityId form sel today)
        [.updateUtilisateur row.id row { form.bind row.toEntity with password := some password }]
  | utilisateurDelete {acteur : List String} {entityId : ℕ}
      (hadmin : isGranted acteur "ROLE_ADMIN" = true) :
      Ecrit services s (.utilisateurDelete acteur entityId)
        ((s.reservations.select fun r => r.utilisateur == entityId).map
          (fun r => .deleteReservations r.id) ++ [.deleteUtilisateur entityId])
  | livreNew {acteur : List String} {form : Livre} :
      Ecrit services s (.livreNew acteur form) [.insertLivre form]
  | livreEdit {acteur : List String} {entityId : ℕ} {form : Livre} {row : LivreRow} :
      Ecrit services s (.livreEdit acteur entityId form) [.updateLivre entityId row form]
  | livreDelete {acteur : List String} {entityId : ℕ} :
      Ecrit services s (.livreDelete acteur entityId)
        ((s.reservations.select fun r => r.livre == entityId).map
          (fun r => .deleteReservations r.id) ++ [.deleteLivre entityId])

/-- Nothing is written, and EasyAdmin reports nothing saved; or a unit of work of the request is
handed to the database, and a failure is not reported as saved. -/
def Ecrit.Cases (services : Services) (s : Tables) (r : Requete) (out : Tables × Reponse) : Prop :=
  (out.1 = s ∧ out.2 ≠ .enregistre) ∨
    ∃ ws, ∃ f : Bool → Reponse, Ecrit services s r ws ∧ f false ≠ .enregistre ∧
      out = (flush ws fun b => done (f b) : Handler).alone s

variable (services : Services) (s : Tables)

/-- A handler that answers without having saved anything. -/
theorem Ecrit.cases_refus {services : Services} {s : Tables} {r : Requete} {rep : Reponse}
    (h : rep ≠ .enregistre) : Ecrit.Cases services s r ((done rep : Handler).alone s) :=
  Or.inl ⟨rfl, h⟩

/-- A handler that ends by saving `ws`. -/
theorem Ecrit.cases_save {services : Services} {s : Tables} {r : Requete} {ws : List Statement}
    (h : Ecrit services s r ws) (f : Bool → Reponse) (hf : f false ≠ .enregistre) :
    Ecrit.Cases services s r ((flush ws fun b => done (f b) : Handler).alone s) :=
  Or.inr ⟨ws, f, h, hf, rfl⟩

theorem apresFlush_false : apresFlush false ≠ .enregistre := nofun

/-! ### Form fields -/

theorem after_choixUtilisateur (o : Option ℕ) : (choixUtilisateur o).after s = s := by
  cases o <;> rfl

theorem after_choixLivre (o : Option ℕ) : (choixLivre o).after s = s := by
  cases o <;> rfl

theorem answer_choixUtilisateur_eq_nil_iff (o : Option ℕ) :
    (choixUtilisateur o).answer s = [] ↔ ∀ u, o = some u → s.hasUtilisateur u = true := by
  cases o with
  | none => simp [choixUtilisateur, answer]
  | some u =>
    show (if s.hasUtilisateur u = true then [] else [choixInvalide "utilisateur"]) = [] ↔ _
    split_ifs with h <;> simp [h]

theorem answer_choixLivre_eq_nil_iff (o : Option ℕ) :
    (choixLivre o).answer s = [] ↔ ∀ l, o = some l → s.hasLivre l = true := by
  cases o with
  | none => simp [choixLivre, answer]
  | some l =>
    show (if s.hasLivre l = true then [] else [choixInvalide "livre"]) = [] ↔ _
    split_ifs with h <;> simp [h]

/-! ### Loans -/

theorem cases_empruntNew (form : Emprunt) (now : Instant) :
    Ecrit.Cases services s (.empruntNew form now)
      ((EmpruntCrudController.new form now).alone s) := by
  unfold EmpruntCrudController.new
  rw [alone_bind_of_after _ _ _ (after_choixUtilisateur s _),
    alone_bind_of_after _ _ _ (after_choixLivre s _)]
  split_ifs with hdate hchoix
  · exact Ecrit.cases_refus nofun
  · rw [List.append_eq_nil_iff, answer_choixUtilisateur_eq_nil_iff,
      answer_choixLivre_eq_nil_iff] at hchoix
    rw [alone_bind_of_after _ _ _ (EmpruntRulesValidator.after_validate _ s)]
    split_ifs with hviol
    · -- `persistEntity` checks both rules again, also for a loan with a return date
      unfold EmpruntCrudController.persistEntity
      split
      · exact Ecrit.cases_refus nofun
      · next l hl =>
        simp only [read_bind, alone_query]
        split_ifs with hemp
        · exact Ecrit.cases_refus nofun
        · split
          · exact Ecrit.cases_refus nofun
          · next u hu =>
            simp only [alone_query]
            split_ifs with hquota
            · exact Ecrit.cases_refus nofun
            · rw [compterEnCours_eq] at hquota
              have hlibre : s.enCoursLivre l = 0 :=
                (getIsEmprunte_eq_false_iff s l).mp (by simpa using hemp)
              rw [Emprunt.dater_eq hdate]
              have hecrit : Ecrit services s (.empruntNew form now) _ :=
                .empruntNew hdate hu hl ⟨hchoix.1 u hu, hchoix.2 l hl⟩ hlibre (by omega)
              exact Ecrit.cases_save hecrit apresFlush apresFlush_false
    · exact Ecrit.cases_refus nofun
  · exact Ecrit.cases_refus nofun

theorem cases_empruntEdit (entityId : ℕ) (form : Emprunt) :
    Ecrit.Cases services s (.empruntEdit entityId form)
      ((EmpruntCrudController.edit entityId form).alone s) := by
  unfold EmpruntCrudController.edit
  simp only [read_bind, alone_query]
  split
  · exact Ecrit.cases_refus nofun
  · next row hrow =>
    rw [alone_bind_of_after _ _ _ (after_choixUtilisateur s _),
      alone_bind_of_after _ _ _ (after_choixLivre s _)]
    split_ifs with hdate hchoix
    · exact Ecrit.cases_refus nofun
    · rw [List.append_eq_nil_iff, answer_choixUtilisateur_eq_nil_iff,
        answer_choixLivre_eq_nil_iff] at hchoix
      rw [alone_bind_of_after _ _ _ (EmpruntRulesValidator.after_validate _ s)]
      split_ifs with hviol
      · rw [EmpruntRulesValidator.answer_validate_eq_nil_iff] at hviol
        exact Ecrit.cases_save (.empruntEdit hrow hdate hchoix.1 hchoix.2 hviol) apresFlush
          apresFlush_false
      · exact Ecrit.cases_refus nofun
    · exact Ecrit.cases_refus nofun

theorem cases_empruntDelete (entityId : ℕ) :
    Ecrit.Cases services s (.empruntDelete entityId)
      ((EmpruntCrudController.delete entityId).alone s) := by
  unfold EmpruntCrudController.delete
  simp only [read_bind, alone_query]
  split
  · exact Ecrit.cases_refus nofun
  · exact Ecrit.cases_save .empruntDelete apresFlush apresFlush_false

theorem cases_rendreLivre (entityId : ℕ) (now : Instant) :
    Ecrit.Cases services s (.rendreLivre entityId now)
      ((EmpruntCrudController.rendreLivre entityId now).alone s) := by
  unfold EmpruntCrudController.rendreLivre
  simp only [read_bind, alone_query]
  split
  · exact Ecrit.cases_refus nofun
  · next row hrow =>
    split_ifs with hret
    · exact Ecrit.cases_refus nofun
    · exact Ecrit.cases_save (.rendreLivre hrow (not_not.mp hret)) _ nofun

/-! ### Reservations -/

theorem cases_transformerEnEmprunt (entityId : ℕ) (now : Instant) :
    Ecrit.Cases services s (.transformerEnEmprunt entityId now)
      ((ReservationsCrudController.transformerEnEmprunt entityId now).alone s) := by
  unfold ReservationsCrudController.transformerEnEmprunt
  simp only [read_bind, alone_query]
  split
  · exact Ecrit.cases_refus nofun
  · next resa hresa =>
    rw [alone_bind_of_after _ _ _ (EmpruntRulesValidator.after_validate _ s)]
    split
    · exact Ecrit.cases_refus nofun
    · next hviol =>
      rw [EmpruntRulesValidator.answer_validate_eq_nil_iff] at hviol
      obtain ⟨hquota, hlibre⟩ := hviol _ _ rfl rfl rfl
      -- a new loan has no id, so nothing is excluded from the counts
      change s.emprunt.others 0 _ < 5 at hquota
      change s.emprunt.others 0 _ = 0 at hlibre
      rw [Table.others_zero] at hquota hlibre
      exact Ecrit.cases_save (.transformerEnEmprunt hresa hlibre hquota) _ nofun

theorem cases_reservationsNew (form : Reservations) :
    Ecrit.Cases services s (.reservationsNew form)
      ((ReservationsCrudController.new form).alone s) := by
  unfold ReservationsCrudController.new
  rw [alone_bind_of_after _ _ _ (after_choixUtilisateur s _),
    alone_bind_of_after _ _ _ (after_choixLivre s _)]
  split_ifs with hdate hchoix
  · exact Ecrit.cases_refus nofun
  · rw [alone_bind_of_after _ _ _ (ReservationRulesValidator.after_validate _ s)]
    split_ifs with hviol
    · rw [ReservationRulesValidator.answer_validate_eq_nil_iff] at hviol
      exact Ecrit.cases_save (.reservationsNew hviol) apresFlush apresFlush_false
    · exact Ecrit.cases_refus nofun
  · exact Ecrit.cases_refus nofun

theorem cases_reservationsEdit (entityId : ℕ) (form : Reservations) :
    Ecrit.Cases services s (.reservationsEdit entityId form)
      ((ReservationsCrudController.edit entityId form).alone s) := by
  unfold ReservationsCrudController.edit
  simp only [read_bind, alone_query]
  split
  · exact Ecrit.cases_refus nofun
  · next row hrow =>
    rw [alone_bind_of_after _ _ _ (after_choixUtilisateur s _),
      alone_bind_of_after _ _ _ (after_choixLivre s _)]
    split_ifs with hdate hchoix
    · exact Ecrit.cases_refus nofun
    · rw [alone_bind_of_after _ _ _ (ReservationRulesValidator.after_validate _ s)]
      split_ifs with hviol
      · rw [ReservationRulesValidator.answer_validate_eq_nil_iff] at hviol
        exact Ecrit.cases_save (.reservationsEdit hrow hviol) apresFlush apresFlush_false
      · exact Ecrit.cases_refus nofun
    · exact Ecrit.cases_refus nofun

theorem cases_reservationsDelete (entityId : ℕ) :
    Ecrit.Cases services s (.reservationsDelete entityId)
      ((ReservationsCrudController.delete entityId).alone s) := by
  unfold ReservationsCrudController.delete
  simp only [read_bind, alone_query]
  split
  · exact Ecrit.cases_refus nofun
  · exact Ecrit.cases_save .reservationsDelete apresFlush apresFlush_false

/-- `findOneBy` finds no open loan of a book exactly when there is none. -/
theorem find_enCours_isSome (l : ℕ) :
    (s.emprunt.rows.find? fun e => e.livre == l && e.enCours).isSome = false ↔
      s.enCoursLivre l = 0 := by
  rw [Tables.enCoursLivre, Table.count_eq_zero_iff, Option.isSome_eq_false_iff,
    Option.isNone_iff_eq_none, List.find?_eq_none]
  simp [surLivre]

/-- `findOneBy` finds no reservation of a book exactly when there is none. -/
theorem find_resa_isSome (l : ℕ) :
    (s.reservations.rows.find? fun r => r.livre == l).isSome = false ↔ s.resasLivre l = 0 := by
  rw [Tables.resasLivre, Table.count_eq_zero_iff, Option.isSome_eq_false_iff,
    Option.isNone_iff_eq_none, List.find?_eq_none]
  simp [resaSurLivre]

theorem length_resas (u : ℕ) :
    (s.reservations.select fun r => r.utilisateur == u).length = s.resasUtilisateur u :=
  Table.length_select _ _

theorem cases_apiCreate (user livre : ℕ) (now : Instant) :
    Ecrit.Cases services s (.apiCreate user livre now)
      ((ReservationsController.create user livre now).alone s) := by
  unfold ReservationsController.create ReservationsController.resoudreLivre
    ReservationsController.regleQuota ReservationsController.regleReserve
    ReservationsController.regleEmprunt
  -- the account, the book, and the three rules in the order of the source
  simp only [read_bind, alone_query]
  split
  · exact Ecrit.cases_refus nofun
  simp only [alone_query]
  split
  · exact Ecrit.cases_refus nofun
  simp only [alone_query]
  split_ifs with hquota
  · exact Ecrit.cases_refus nofun
  simp only [alone_query]
  split_ifs with hresa
  · exact Ecrit.cases_refus nofun
  simp only [alone_query]
  split_ifs with hemp
  · exact Ecrit.cases_refus nofun
  rw [length_resas] at hquota
  have hresa' := (find_resa_isSome s livre).mp (by simpa using hresa)
  have hemp' := (find_enCours_isSome s livre).mp (by simpa using hemp)
  exact Ecrit.cases_save (.apiCreate (by omega) hresa' hemp') _ nofun

theorem cases_apiDelete (user reservation : ℕ) :
    Ecrit.Cases services s (.apiDelete user reservation)
      ((ReservationsController.delete user reservation).alone s) := by
  unfold ReservationsController.delete ReservationsController.resoudreReservation
  simp only [read_bind, alone_query]
  split
  · exact Ecrit.cases_refus nofun
  simp only [alone_query]
  split
  · exact Ecrit.cases_refus nofun
  next resa hresa =>
  split_ifs with huser
  · exact Ecrit.cases_refus nofun
  · exact Ecrit.cases_save (.apiDelete hresa (not_not.mp huser)) _ nofun

/-! ### Accounts -/

theorem cases_register (data : Json) (sel : ℕ) :
    Ecrit.Cases services s (.register data sel)
      ((RegisterController.register services data sel).alone s) := by
  unfold RegisterController.register
  split_ifs with hvide
  · exact Ecrit.cases_refus nofun
  split
  · next email nom prenom plain he hn hp hpw =>
    split
    · exact Ecrit.cases_refus nofun
    · next hash hhash => exact Ecrit.cases_save (.register he hhash) _ nofun
  · exact Ecrit.cases_refus nofun

/-- The end of `updateMe`, with the email it has decided on. -/
theorem cases_updateMeSuite {user : ℕ} {row : UtilisateurRow} {data : Json} {email : String}
    (hrow : s.utilisateur.find user = some row)
    (hdecide : ∀ adressePostale numTel,
      UserController.champ data "adressePostale" row.adressePostale = some adressePostale →
      UserController.champ data "numTel" row.numTel = some numTel →
      UserController.Decide s row data email adressePostale numTel) :
    Ecrit.Cases services s (.updateMe user data)
      ((UserController.updateMeSuite row data email).alone s) := by
  unfold UserController.updateMeSuite
  split
  · next adressePostale numTel ha ht =>
    exact Ecrit.cases_save (.updateMe hrow (hdecide _ _ ha ht)) _ nofun
  · exact Ecrit.cases_refus nofun

theorem cases_updateMe (user : ℕ) (data : Json) :
    Ecrit.Cases services s (.updateMe user data)
      ((UserController.updateMe user data).alone s) := by
  unfold UserController.updateMe
  simp only [read_bind, alone_query]
  split
  · exact Ecrit.cases_refus nofun
  next row hrow =>
  split
  · exact Ecrit.cases_refus nofun
  next hnull =>
  split_ifs with hset
  · simp only [alone_query]
    split_ifs with hexist
    · exact Ecrit.cases_refus nofun
    split
    · exact Ecrit.cases_refus nofun
    next email hemail =>
    refine cases_updateMeSuite services s hrow fun _ _ ha ht => ⟨hnull, ?_, ha, ht⟩
    rw [Option.not_isSome_iff_eq_none, List.find?_eq_none] at hexist
    rw [if_pos hset]
    exact ⟨hemail, fun r hr => Bool.not_eq_true _ ▸ hexist r hr⟩
  · refine cases_updateMeSuite services s hrow fun _ _ ha ht => ⟨hnull, ?_, ha, ht⟩
    rw [if_neg hset]

theorem cases_upgradePassword (user : ℕ) (newHashedPassword : String) :
    Ecrit.Cases services s (.upgradePassword user newHashedPassword)
      ((UtilisateurRepository.upgradePassword user newHashedPassword).alone s) := by
  unfold UtilisateurRepository.upgradePassword
  simp only [read_bind, alone_query]
  split
  · exact Ecrit.cases_refus nofun
  · next row hrow => exact Ecrit.cases_save (.upgradePassword hrow) _ nofun

/-- A password that is not null, empty or `"0"` is a string. -/
theorem exists_of_truthy {o : Option String} (h : truthy o = true) : ∃ plain, o = some plain := by
  cases o with
  | none => simp [truthy] at h
  | some plain => exact ⟨plain, rfl⟩

theorem cases_utilisateurNew (acteur : List String) (form : UtilisateurCrudController.Form)
    (sel : ℕ) (today : Date) :
    Ecrit.Cases services s (.utilisateurNew acteur form sel today)
      ((UtilisateurCrudController.new services acteur form sel today).alone s) := by
  unfold UtilisateurCrudController.new
  split_ifs with hbiblio hnull hroles
  · exact Ecrit.cases_refus nofun
  · exact Ecrit.cases_refus nofun
  · exact Ecrit.cases_refus nofun
  have hroles' : ∀ role ∈ form.roles, role ∈ UtilisateurCrudController.rolesChoices acteur := by
    simpa using hroles
  dsimp only
  split_ifs with hviol
  · unfold UtilisateurCrudController.persistEntity
    split_ifs with htruthy
    · obtain ⟨plain, hplain⟩ := exists_of_truthy htruthy
      change form.password = some plain at hplain
      split
      · exact Ecrit.cases_refus nofun
      · next hash hhash =>
        refine Ecrit.cases_save (.utilisateurNew hroles' hviol
          (Or.inr ⟨plain, hash, hplain, htruthy, ?_, rfl⟩)) apresFlush apresFlush_false
        simpa [UtilisateurCrudController.Form.bind, hplain] using hhash
    · -- a false password is stored as it is
      have htruthy' : truthy form.password = false := Bool.not_eq_true _ ▸ htruthy
      exact Ecrit.cases_save (.utilisateurNew hroles' hviol (Or.inl ⟨htruthy', rfl⟩)) apresFlush
        apresFlush_false
  · exact Ecrit.cases_refus nofun

theorem cases_utilisateurEdit (acteur : List String) (entityId : ℕ)
    (form : UtilisateurCrudController.Form) (sel : ℕ) (today : Date) :
    Ecrit.Cases services s (.utilisateurEdit acteur entityId form sel today)
      ((UtilisateurCrudController.edit services acteur entityId form sel today).alone s) := by
  unfold UtilisateurCrudController.edit
  split
  · exact Ecrit.cases_refus nofun
  simp only [read_bind, alone_query]
  split
  · exact Ecrit.cases_refus nofun
  next row hrow =>
  split_ifs with hnull hroles hviol
  · exact Ecrit.cases_refus nofun
  · exact Ecrit.cases_refus nofun
  · have hroles' : ∀ role ∈ form.roles, role ∈ UtilisateurCrudController.rolesChoices acteur := by
      simpa using hroles
    -- whether the guard lets the edition through makes no difference to what it writes
    unfold UtilisateurCrudController.updateEntity
    dsimp only
    split_ifs with hstaff htruthy
    · exact Ecrit.cases_refus nofun
    · obtain ⟨plain, hplain⟩ := exists_of_truthy htruthy
      change form.password = some plain at hplain
      split
      · exact Ecrit.cases_refus nofun
      · next hash hhash =>
        refine Ecrit.cases_save (.utilisateurEdit hrow hroles' hnull hviol
          (Or.inr ⟨plain, hplain, htruthy, ?_⟩)) apresFlush apresFlush_false
        simpa [UtilisateurCrudController.Form.bind, hplain] using hhash
    · have htruthy' : truthy form.password = false := Bool.not_eq_true _ ▸ htruthy
      exact Ecrit.cases_save (.utilisateurEdit hrow hroles' hnull hviol (Or.inl ⟨htruthy', rfl⟩))
        apresFlush apresFlush_false
  · exact Ecrit.cases_refus nofun

theorem cases_utilisateurDelete (acteur : List String) (entityId : ℕ) :
    Ecrit.Cases services s (.utilisateurDelete acteur entityId)
      ((UtilisateurCrudController.delete acteur entityId).alone s) := by
  unfold UtilisateurCrudController.delete
  split_ifs with hadmin
  · exact Ecrit.cases_refus nofun
  simp only [read_bind, alone_query]
  split
  · exact Ecrit.cases_refus nofun
  · exact Ecrit.cases_save (.utilisateurDelete (by simpa using hadmin)) apresFlush apresFlush_false

/-! ### Books -/

theorem cases_livreNew (acteur : List String) (form : Livre) :
    Ecrit.Cases services s (.livreNew acteur form)
      ((LivreCrudController.new services acteur form).alone s) := by
  unfold LivreCrudController.new
  split_ifs with hadmin hviol
  · exact Ecrit.cases_refus nofun
  · exact Ecrit.cases_save .livreNew apresFlush apresFlush_false
  · exact Ecrit.cases_refus nofun

theorem cases_livreEdit (acteur : List String) (entityId : ℕ) (form : Livre) :
    Ecrit.Cases services s (.livreEdit acteur entityId form)
      ((LivreCrudController.edit services acteur entityId form).alone s) := by
  unfold LivreCrudController.edit
  split
  · exact Ecrit.cases_refus nofun
  simp only [read_bind, alone_query]
  split
  · exact Ecrit.cases_refus nofun
  split_ifs with hnull hviol
  · exact Ecrit.cases_refus nofun
  · exact Ecrit.cases_save .livreEdit apresFlush apresFlush_false
  · exact Ecrit.cases_refus nofun

theorem cases_livreDelete (acteur : List String) (entityId : ℕ) :
    Ecrit.Cases services s (.livreDelete acteur entityId)
      ((LivreCrudController.delete acteur entityId).alone s) := by
  unfold LivreCrudController.delete
  split_ifs with hadmin
  · exact Ecrit.cases_refus nofun
  simp only [read_bind, alone_query]
  split
  · exact Ecrit.cases_refus nofun
  · exact Ecrit.cases_save .livreDelete apresFlush apresFlush_false

/-! ### Every request -/

/-- **Inversion.**  A request served alone writes nothing, or hands one of its units of work to the
database. -/
theorem alone_cases (r : Requete) : Ecrit.Cases services s r ((r.handler services).alone s) := by
  cases r with
  | empruntNew form now => exact cases_empruntNew services s form now
  | empruntEdit entityId form => exact cases_empruntEdit services s entityId form
  | empruntDelete entityId => exact cases_empruntDelete services s entityId
  | rendreLivre entityId now => exact cases_rendreLivre services s entityId now
  | transformerEnEmprunt entityId now => exact cases_transformerEnEmprunt services s entityId now
  | reservationsNew form => exact cases_reservationsNew services s form
  | reservationsEdit entityId form => exact cases_reservationsEdit services s entityId form
  | reservationsDelete entityId => exact cases_reservationsDelete services s entityId
  | apiCreate user livre now => exact cases_apiCreate services s user livre now
  | apiDelete user reservation => exact cases_apiDelete services s user reservation
  | register data sel => exact cases_register services s data sel
  | updateMe user data => exact cases_updateMe services s user data
  | upgradePassword user hash => exact cases_upgradePassword services s user hash
  | utilisateurNew acteur form sel today =>
    exact cases_utilisateurNew services s acteur form sel today
  | utilisateurEdit acteur entityId form sel today =>
    exact cases_utilisateurEdit services s acteur entityId form sel today
  | utilisateurDelete acteur entityId => exact cases_utilisateurDelete services s acteur entityId
  | livreNew acteur form => exact cases_livreNew services s acteur form
  | livreEdit acteur entityId form => exact cases_livreEdit services s acteur entityId form
  | livreDelete acteur entityId => exact cases_livreDelete services s acteur entityId

/-- What holds of unchanged tables and of every committed unit of work of a request holds after
it. -/
theorem apres_induct {P : Tables → Prop} (r : Requete) (hsame : P s)
    (hws : ∀ ws s', Ecrit services s r ws → commit ws s = some s' → P s') :
    P (r.apres services s) := by
  unfold Requete.apres after
  rcases alone_cases services s r with ⟨h, -⟩ | ⟨ws, f, hecrit, -, h⟩
  · rw [h]
    exact hsame
  · rw [h]
    cases hc : commit ws s with
    | none =>
      rw [alone_flush_none hc]
      exact hsame
    | some s' =>
      rw [alone_flush_some hc]
      exact hws ws s' hecrit hc

/-- A request reported as saved has committed a unit of work. -/
theorem exists_commit_of_enregistre {r : Requete}
    (h : (r.handler services).answer s = .enregistre) :
    ∃ ws, Ecrit services s r ws ∧ commit ws s = some (r.apres services s) := by
  unfold answer at h
  unfold Requete.apres after
  rcases alone_cases services s r with ⟨-, hne⟩ | ⟨ws, f, hecrit, hf, hout⟩
  · exact absurd h hne
  · refine ⟨ws, hecrit, ?_⟩
    rw [hout] at h ⊢
    cases hc : commit ws s with
    | none =>
      rw [alone_flush_none hc] at h
      exact absurd h hf
    | some s' => rw [alone_flush_some hc, alone_done]

end Biblio
