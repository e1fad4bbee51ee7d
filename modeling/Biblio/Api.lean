import Biblio.Catalogue
import Biblio.Requete

/-!
# The API of a member

The requests of the API that carry the token of an account: the three that write, and the `GET`
requests, as programs that only read.  The catalogue is not written by any of them, so it is a
parameter, together with the order of its queries, `LIKE`, and the text of a `DATETIME` value by
which the statistics are grouped (`Api`).
-/

namespace Biblio

open Prog

/-- What the requests read beside the tables. -/
structure Api where
  catalogue : Catalogue
  ordre : Ordre
  like : String → String → Bool
  texteDate : Datetime → String

/-- The statistics: the totals, and the number of loans of the latest months. -/
structure Stats where
  livres : ℕ
  adherents : ℕ
  empruntsEnCours : ℕ
  history : List (String × ℕ)
  deriving DecidableEq

/-- What a `GET` request answers. -/
inductive ReponseGet where
  | utilisateur (u : UtilisateurRow) (emprunts : List EmpruntRow)
      (reservations : List ReservationsRow)
  | emprunts (rows : List EmpruntRow)
  | reservations (rows : List ReservationsRow)
  | stats (stats : Stats)
  | livres (resultat : Resultat LivreLu)
  | livre (livre : LivreLu)
  | auteurs (resultat : Resultat AuteurRow)
  | auteur (auteur : AuteurRow)
  | categories (rows : List CategorieRow)
  | categorie (categorie : CategorieRow)
  | erreur (status : ℕ) (message : String)
  deriving DecidableEq

/-- A `GET` request. -/
abbrev Lecture := Prog Tables Statement ReponseGet

/-! ### The account -/

/-- The collection `emprunts` of an account. -/
def getEmprunts (user : ℕ) (s : Tables) : List EmpruntRow :=
  s.emprunt.select fun e => e.utilisateur == user

/-- The collection `reservations` of an account, also what `findBy` finds for it. -/
def getReservations (user : ℕ) (s : Tables) : List ReservationsRow :=
  s.reservations.select fun r => r.utilisateur == user

namespace UserActionsController

def mesEmprunts (user : ℕ) : Lecture := do
  match ← read fun s : Tables => s.utilisateur.find user with
  | none => return .erreur 401 "Utilisateur non trouvé ou non connecté"
  | some _ => return .emprunts (← read (getEmprunts user))

def mesReservations (user : ℕ) : Lecture := do
  match ← read fun s : Tables => s.utilisateur.find user with
  | none => return .erreur 401 "Utilisateur non trouvé ou non connecté"
  | some _ => return .reservations (← read (getReservations user))

end UserActionsController

/-- `ReservationsController::index`. -/
def ReservationsController.index (user : ℕ) : Lecture := do
  match ← read fun s : Tables => s.utilisateur.find user with
  | none => return .erreur 401 "Unauthorized"
  | some _ => return .reservations (← read (getReservations user))

/-- `UserController::me`, with the collections that are serialized. -/
def UserController.lireMe (user : ℕ) : Lecture := do
  match ← read fun s : Tables => s.utilisateur.find user with
  | none => return .erreur 401 "Unauthorized"
  | some row => do
    let emprunts ← read (getEmprunts user)
    return .utilisateur row emprunts (← read (getReservations user))

/-! ### Statistics -/

namespace StatsController

/-- `SUBSTRING(e.dateEmprunt, 1, 7)`. -/
def mois (texteDate : Datetime → String) (e : EmpruntRow) : String :=
  ((texteDate e.dateEmprunt).take 7).toString

/-- The loans by month, the latest six months first. -/
def empruntsParMois (texteDate : Datetime → String) (s : Tables) : List (String × ℕ) :=
  let tous := s.emprunt.rows.map (mois texteDate)
  ((tous.dedup.mergeSort fun a b => decide (b ≤ a)).take 6).map fun m => (m, tous.count m)

/-- `StatsController::getStats`, for administrators. -/
def getStats (texteDate : Datetime → String) (user : ℕ) : Lecture := do
  match ← read fun s : Tables => s.utilisateur.find user with
  | none => return .erreur 401 "Unauthorized"
  | some row =>
    if !isGranted row.roles "ROLE_ADMIN" then return .erreur 403 "Access Denied."
    else do
      let livres ← read fun s : Tables => s.livre.rows.length
      let adherents ← read fun s : Tables => s.utilisateur.rows.length
      let empruntsEnCours ← read fun s : Tables => s.emprunt.count EmpruntRow.enCours
      return .stats ⟨livres, adherents, empruntsEnCours, ← read (empruntsParMois texteDate)⟩

end StatsController

/-! ### The requests -/

/-- The `GET` requests of the API. -/
inductive Get where
  | me
  | mesEmprunts
  | mesReservations
  | reservations
  | stats
  | livres (q : Query)
  | livre (id : ℕ)
  | auteurs (q : Query)
  | auteur (id : ℕ)
  | categories
  | categorie (id : ℕ)

/-- The answer of a route with an id; no row of this id is an error. -/
def ou404 {β : Type} (o : Option β) (f : β → ReponseGet) : ReponseGet :=
  o.elim (.erreur 404 "Not Found") f

/-- The answer of a search; a refused offset is an exception. -/
def ou500 {β : Type} (o : Option β) (f : β → ReponseGet) : ReponseGet :=
  o.elim (.erreur 500 "Internal Server Error") f

/-- The program of a `GET` request of the account `user`. -/
def Get.handler (api : Api) (user : ℕ) : Get → Lecture
  | me => UserController.lireMe user
  | mesEmprunts => UserActionsController.mesEmprunts user
  | mesReservations => UserActionsController.mesReservations user
  | reservations => ReservationsController.index user
  | stats => StatsController.getStats api.texteDate user
  | livres q => return ou500 (LivreController.index api.like api.ordre api.catalogue q) .livres
  | livre id => return ou404 (LivreController.show api.catalogue id) .livre
  | auteurs q => return ou500 (AuteurController.index api.like api.ordre api.catalogue q) .auteurs
  | auteur id => return ou404 (api.catalogue.auteur.find id) .auteur
  | categories => return .categories api.catalogue.categorie.rows
  | categorie id => return ou404 (api.catalogue.categorie.find id) .categorie

/-- A request of the API that carries the token of an account. -/
inductive AppelMembre where
  | create (livre : ℕ) (now : Instant)
  | delete (reservation : ℕ)
  | updateMe (data : Json)
  | get (g : Get)

/-- The tables after a request of the account `user`, served alone. -/
def AppelMembre.apres (api : Api) (user : ℕ) (s : Tables) : AppelMembre → Tables
  | create livre now => (ReservationsController.create user livre now).after s
  | delete reservation => (ReservationsController.delete user reservation).after s
  | updateMe data => (UserController.updateMe user data).after s
  | get g => (g.handler api user).after s

end Biblio
