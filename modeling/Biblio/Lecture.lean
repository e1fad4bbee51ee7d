import Biblio.Api
import Biblio.LivreDetail
import Biblio.Roles

/-!
# What the API shows

The answers of the API as they are serialized.  The group `user:read` has the account, without its
password, with its loans and reservations and, of their books, the id and the title; `livre:read`
has the book with its authors and categories and the two flags that its loans and reservations
give it; `auteur:read` and `categorie:read` have the rows themselves.

`AppelMembre.repondre` is the answer of a request of the account `user`, as its client gets it.  The
last section is the dashboard, which shows the counters of the staff.
-/

namespace Biblio

open Prog

/-! ### The group `user:read` -/

/-- A book in the group `user:read`. -/
structure LivreRef where
  id : ℕ
  titre : String
  deriving DecidableEq

/-- A loan. -/
structure EmpruntRead where
  id : ℕ
  dateEmprunt : Datetime
  dateRetour : Option Datetime
  livre : Option LivreRef
  deriving DecidableEq

/-- A reservation. -/
structure ReservationRead where
  id : ℕ
  dateResa : Datetime
  livre : Option LivreRef
  deriving DecidableEq

/-- An account; its `roles` are what `json_encode` makes of `getRoles`. -/
structure UtilisateurRead where
  id : Option ℕ
  email : Option String
  roles : RolesJson
  nom : Option String
  prenom : Option String
  dateAdhesion : Option Datetime
  dateNaiss : Option Date
  adressePostale : Option String
  numTel : Option String
  photo : Option String
  emprunts : List EmpruntRead
  reservations : List ReservationRead
  deriving DecidableEq

namespace Tables

/-- The association `livre` of a loan or a reservation. -/
def livreRef (s : Tables) (livre : ℕ) : Option LivreRef :=
  (s.livre.find livre).map fun l => ⟨l.id, l.titre⟩

def serialiserEmprunt (s : Tables) (e : EmpruntRow) : EmpruntRead :=
  ⟨e.id, e.dateEmprunt, e.dateRetour, s.livreRef e.livre⟩

def serialiserReservation (s : Tables) (r : ReservationsRow) : ReservationRead :=
  ⟨r.id, r.dateResa, s.livreRef r.livre⟩

/-- An account with given collections. -/
def serialiserUtilisateur (s : Tables) (u : Utilisateur) (emprunts : List EmpruntRow)
    (reservations : List ReservationsRow) : UtilisateurRead where
  id := u.id
  email := u.email
  roles := jsonEncode (getRoles u.roles)
  nom := u.nom
  prenom := u.prenom
  dateAdhesion := u.dateAdhesion
  dateNaiss := u.dateNaiss
  adressePostale := u.adressePostale
  numTel := u.numTel
  photo := u.photo
  emprunts := emprunts.map s.serialiserEmprunt
  reservations := reservations.map s.serialiserReservation

/-! ### The group `livre:read` -/

/-- A book that a search or `LivreController::show` has loaded. -/
def serialiserLivre (s : Tables) (l : LivreLu) : LivreRead where
  id := l.livre.id
  titre := l.livre.titre
  dateSortie := l.livre.dateSortie
  langue := l.livre.langue
  auteurs := l.auteurs
  categories := l.categories.map fun c => ⟨c.id, c.nom⟩
  isReserve := getIsReserve (s.reservations.select fun r => r.livre == l.livre.id)
  isEmprunte := getIsEmprunte (s.emprunt.select fun e => e.livre == l.livre.id)

end Tables

/-! ### Answers -/

/-- An answer, as the client gets it. -/
inductive ReponseLue where
  | message (status : ℕ) (texte : String)
  | utilisateur (u : UtilisateurRead)
  | emprunts (l : List EmpruntRead)
  | reservations (l : List ReservationRead)
  | stats (stats : Stats)
  | livres (resultat : Resultat LivreRead)
  | livre (livre : LivreRead)
  | auteurs (resultat : Resultat AuteurRow)
  | auteur (auteur : AuteurRow)
  | categories (rows : List CategorieRow)
  | categorie (categorie : CategorieRow)
  deriving DecidableEq

/-- The answer of a `GET` request. -/
def ReponseGet.lue (s : Tables) : ReponseGet → ReponseLue
  | .utilisateur u siens siennes =>
    .utilisateur (s.serialiserUtilisateur u.toEntity siens siennes)
  | .emprunts rows => .emprunts (rows.map s.serialiserEmprunt)
  | .reservations rows => .reservations (rows.map s.serialiserReservation)
  | .stats t => .stats t
  | .livres r => .livres ⟨r.data.map s.serialiserLivre, r.totalPages, r.currentPage⟩
  | .livre l => .livre (s.serialiserLivre l)
  | .auteurs r => .auteurs r
  | .auteur a => .auteur a
  | .categories rows => .categories rows
  | .categorie c => .categorie c
  | .erreur status message => .message status message

/-- The answer of a request that writes, over the tables it leaves; the other answers are those of
the pages of EasyAdmin. -/
def Reponse.lue (user : ℕ) (s : Tables) : Reponse → ReponseLue
  | .json status message => .message status message
  | .jsonUtilisateur u =>
    .utilisateur (s.serialiserUtilisateur u (getEmprunts user s) (getReservations user s))
  | .exception status message => .message status message
  | _ => .message 500 ""

/-- The answer of a request of the account `user`. -/
def AppelMembre.repondre (api : Api) (user : ℕ) (s : Tables) (a : AppelMembre) : ReponseLue :=
  let ecrit (p : Handler) : ReponseLue := (p.answer s).lue user (p.after s)
  match a with
  | .create livre now => ecrit (ReservationsController.create user livre now)
  | .delete reservation => ecrit (ReservationsController.delete user reservation)
  | .updateMe data => ecrit (UserController.updateMe user data)
  | .get g => ((g.handler api user).answer s).lue s

/-- The answers of a sequence of requests. -/
def repondre (api : Api) (user : ℕ) (s : Tables) (as : List AppelMembre) : List ReponseLue :=
  outputs (fun s a => AppelMembre.apres api user s a) (AppelMembre.repondre api user) s as

/-! ### The dashboard -/

/-- The counters of the dashboard. -/
structure Compteurs where
  nbLivres : ℕ
  nbAdherents : ℕ
  nbEmpruntsEnCours : ℕ
  nbCategories : ℕ
  deriving DecidableEq

/-- `DashboardController::index` for the account `user`; `none` is the redirection of those who are
not of the staff. -/
def DashboardController.index (user : ℕ) : Prog Base Instruction (Option Compteurs) := do
  match ← read fun b : Base => b.tables.utilisateur.find user with
  | none => return none
  | some row =>
    if !isGranted row.roles "ROLE_BIBLIO" then return none
    else do
      let nbLivres ← read fun b : Base => b.tables.livre.rows.length
      let nbAdherents ← read fun b : Base => b.tables.utilisateur.rows.length
      let nbCategories ← read fun b : Base => b.categorie.rows.length
      let nbEmpruntsEnCours ← read fun b : Base => b.tables.emprunt.count EmpruntRow.enCours
      return some ⟨nbLivres, nbAdherents, nbEmpruntsEnCours, nbCategories⟩

end Biblio
