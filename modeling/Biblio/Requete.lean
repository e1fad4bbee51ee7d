import Biblio.Reservations
import Biblio.Store.Run
import Biblio.Utilisateur

/-!
# The requests of the lending service

`LivreCrudController`, on the table `livre`, and `Requete`: every request of the application that
writes one of the four tables, with the handler that serves it.  The catalogue's other tables
(authors, categories and their links to books) are not part of this state, and no request on them
writes these tables.
-/

namespace Biblio

open Prog

/-! ### `LivreCrudController` -/

namespace LivreCrudController

/-- The constraint attribute of `Livre`. -/
def violations (services : Services) (v : Livre) : List Violation :=
  match v.photoCouverture with
  | some url =>
    if url = "" ∨ services.urlValide url then [] else
      [⟨"L'URL \"" ++ url ++
        "\" n'est pas valide. Vérifiez qu'elle commence bien par http:// ou https://",
        "photoCouverture"⟩]
  | none => []

/-- The page NEW, for administrators. -/
def new (services : Services) (acteur : List String) (form : Livre) : Handler :=
  if !isGranted acteur "ROLE_ADMIN" then return .exception 403 "Access Denied."
  else if violations services form = [] then do
    let committed ← save [.insertLivre form]
    return apresFlush committed
  else return .formulaireInvalide (violations services form)

/-- The page EDIT of the book `entityId`, for administrators.  `setTitre` and `setLangue` take no
null. -/
def edit (services : Services) (acteur : List String) (entityId : ℕ) (form : Livre) : Handler :=
  if !isGranted acteur "ROLE_ADMIN" then return .exception 403 "Access Denied."
  else do
    match ← read fun s : Tables => s.livre.find entityId with
    | none => return .exception 404 "Not Found"
    | some row =>
      if form.titre = none ∨ form.langue = none then return argumentNul "string"
      else if violations services form = [] then do
        let committed ← save [.updateLivre entityId row form]
        return apresFlush committed
      else return .formulaireInvalide (violations services form)

/-- The action DELETE of the book `entityId`, for administrators.  Its reservations go with it. -/
def delete (acteur : List String) (entityId : ℕ) : Handler :=
  if !isGranted acteur "ROLE_ADMIN" then return .exception 403 "Access Denied."
  else do
    match ← read fun s : Tables => s.livre.find entityId with
    | none => return .exception 404 "Not Found"
    | some _ => do
      let reservations ← read fun s : Tables => s.reservations.select fun r => r.livre == entityId
      let committed ← save
        (reservations.map (fun r => .deleteReservations r.id) ++ [.deleteLivre entityId])
      return apresFlush committed

end LivreCrudController

/-! ### The requests -/

/-- The requests that write the tables.  A request carries the instant of the clock it reads and
the salt its hash draws. -/
inductive Requete where
  | empruntNew (form : Emprunt) (now : Instant)
  | empruntEdit (entityId : ℕ) (form : Emprunt)
  | empruntDelete (entityId : ℕ)
  | rendreLivre (entityId : ℕ) (now : Instant)
  | transformerEnEmprunt (entityId : ℕ) (now : Instant)
  | reservationsNew (form : Reservations)
  | reservationsEdit (entityId : ℕ) (form : Reservations)
  | reservationsDelete (entityId : ℕ)
  | apiCreate (user livre : ℕ) (now : Instant)
  | apiDelete (user reservation : ℕ)
  | register (data : Json) (sel : ℕ)
  | updateMe (user : ℕ) (data : Json)
  | upgradePassword (user : ℕ) (newHashedPassword : String)
  | utilisateurNew (acteur : List String) (form : UtilisateurCrudController.Form) (sel : ℕ)
      (today : Date)
  | utilisateurEdit (acteur : List String) (entityId : ℕ) (form : UtilisateurCrudController.Form)
      (sel : ℕ) (today : Date)
  | utilisateurDelete (acteur : List String) (entityId : ℕ)
  | livreNew (acteur : List String) (form : Livre)
  | livreEdit (acteur : List String) (entityId : ℕ) (form : Livre)
  | livreDelete (acteur : List String) (entityId : ℕ)

/-- The handler of a request. -/
def Requete.handler (services : Services) : Requete → Handler
  | empruntNew form now => EmpruntCrudController.new form now
  | empruntEdit entityId form => EmpruntCrudController.edit entityId form
  | empruntDelete entityId => EmpruntCrudController.delete entityId
  | rendreLivre entityId now => EmpruntCrudController.rendreLivre entityId now
  | transformerEnEmprunt entityId now =>
    ReservationsCrudController.transformerEnEmprunt entityId now
  | reservationsNew form => ReservationsCrudController.new form
  | reservationsEdit entityId form => ReservationsCrudController.edit entityId form
  | reservationsDelete entityId => ReservationsCrudController.delete entityId
  | apiCreate user livre now => ReservationsController.create user livre now
  | apiDelete user reservation => ReservationsController.delete user reservation
  | register data sel => RegisterController.register services data sel
  | updateMe user data => UserController.updateMe user data
  | upgradePassword user newHashedPassword =>
    UtilisateurRepository.upgradePassword user newHashedPassword
  | utilisateurNew acteur form sel today =>
    UtilisateurCrudController.new services acteur form sel today
  | utilisateurEdit acteur entityId form sel today =>
    UtilisateurCrudController.edit services acteur entityId form sel today
  | utilisateurDelete acteur entityId => UtilisateurCrudController.delete acteur entityId
  | livreNew acteur form => LivreCrudController.new services acteur form
  | livreEdit acteur entityId form => LivreCrudController.edit services acteur entityId form
  | livreDelete acteur entityId => LivreCrudController.delete acteur entityId

/-- The tables after a request served alone. -/
def Requete.apres (services : Services) (r : Requete) (s : Tables) : Tables :=
  (r.handler services).after s

/-- The tables after serving a request, as the step of a run. -/
def servir (services : Services) (s : Tables) (r : Requete) : Tables := r.apres services s

/-- The tables after a sequence of requests, served one at a time. -/
def executer (services : Services) (s : Tables) (rs : List Requete) : Tables :=
  run (servir services) s rs

/-! ### A small library

Two books, two members and two members of staff, with no loan and no reservation; the hashes are
those of the accounts `admin`, `biblio` and `adherent0` of `dump_recette.sql`. -/

namespace Exemple

/-- A hasher that knows the passwords of the seeded accounts. -/
def hashPassword (plain : String) (_sel : ℕ) : Option String :=
  if plain.length > 4096 then none
  else if plain = "admin" then
    some "$2y$13$VALN/VXEk6t/Fun19Uffn.4/HTGil80B521CYYrM4Nd/UO93zW4u."
  else if plain = "biblio" then
    some "$2y$13$8B1s9UFiIj84FOHV7q83hO/cIDHmCFbbXab3AJMmgxH7CASDP0GEm"
  else some "$2y$13$SetwKQPGuB2WNu/QuRFiCOffwqpCvARt6PnZSwgELi7FKHNUTNqGm"

theorem hashPassword_last (plain : String) (sel : ℕ) (hash : String)
    (h : hashPassword plain sel = some hash) : hash.toList.getLast? ≠ some ' ' := by
  unfold hashPassword at h
  split_ifs at h <;> rw [← Option.some.inj h] <;> decide

/-- The packages: an address is what has an `@` and does not end with a space. -/
def services : Services where
  hashPassword := hashPassword
  emailStrict := fun e => e.toList.contains '@' && e.toList.getLast? != some ' '
  urlValide := fun u => u.toList.contains ':'
  hash_last := hashPassword_last
  email_last := fun _ h => bne_iff_ne.mp (Bool.and_eq_true_iff.mp h).2

/-- The row of an account. -/
def compte (id : ℕ) (email : String) (roles : List String) (plain : String) : UtilisateurRow where
  id := id
  email := email
  roles := roles
  password := (hashPassword plain 0).getD ""
  nom := some "Evrard"
  prenom := some "Lucy"
  dateAdhesion := 0
  dateNaiss := none
  adressePostale := none
  numTel := none
  photo := none

/-- The tables of the small library, with given loans and reservations. -/
def tables (emprunt : Table EmpruntRow) (reservations : Table ReservationsRow) : Tables where
  livre :=
    { rows := [⟨1, "Beatae asperiores aut", none, "Espagnol", none⟩,
        ⟨2, "Natus mollitia ut", none, "Espagnol", none⟩]
      next := 3
      nodup := by decide
      pos := by decide
      lt_next := by decide
      next_pos := by decide }
  utilisateur :=
    { rows := [compte 3 "admin@articles.fr" ["ROLE_ADMIN"] "admin",
        compte 4 "biblio@articles.fr" ["ROLE_BIBLIO"] "biblio",
        compte 5 "adherent0@articles.fr" ["ROLE_USER"] "password",
        compte 6 "adherent1@articles.fr" ["ROLE_USER"] "password"]
      next := 7
      nodup := by decide
      pos := by decide
      lt_next := by decide
      next_pos := by decide }
  emprunt := emprunt
  reservations := reservations
  emailKey := id

/-- The form of a loan of a book by a member, dated `0` and open. -/
def pret (utilisateur livre : ℕ) : Emprunt := ⟨none, some 0, none, some utilisateur, some livre⟩

/-- The form of an account, with the role of a member. -/
def fiche (email : String) (password : Option String) (h : password ≠ some "") :
    UtilisateurCrudController.Form where
  email := some email
  nom := some "Evrard"
  prenom := some "Lucy"
  dateAdhesion := some 0
  dateNaiss := none
  numTel := none
  adressePostale := none
  password := password
  roles := ["ROLE_USER"]
  password_ne := h

end Exemple

end Biblio
