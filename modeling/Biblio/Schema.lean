import Biblio.Store.Table
import Biblio.Store.Prog
import Mathlib.Data.Int.Notation

/-!
# The entities and the tables

The four tables of the lending service, as the migrations create them: `livre`, `utilisateur`,
`emprunt` and `reservations`.  Every table has a row type (`EmpruntRow`), whose nullable columns
are options, and an entity type (`Emprunt`), the PHP object, where every property may still be
null; a flush turns one into the other and fails where a `NOT NULL` column gets null.

`Statement` lists the SQL statements Doctrine issues and `exec` their effect.  An `UPDATE`
carries the original data of the entity, as read, beside the new values: Doctrine sets only the
columns that differ between the two (`changed`).  The constraints are those of the migrations:
primary keys (`Table`), `NOT NULL`, the `VARCHAR` lengths, the foreign keys (`RESTRICT`), and the
unique email, compared by the collation of its column (`Tables.emailKey`).  A value too long for
its column is refused, by the strict `sql_mode`, unless all that is too much is spaces: those are
removed with a warning, in every `sql_mode` (`fits`, `couper`).

The columns of `livre` and `utilisateur` that no handler of this development reads or writes are
kept, since their forms bind them.
-/

namespace Biblio

/-- An instant of the clock, in microseconds. -/
abbrev Instant := ℤ

/-- The value of a `DATETIME` column, in seconds. -/
abbrev Datetime := ℤ

/-- The value of a `DATE` column, in days. -/
abbrev Date := ℤ

/-- What a `DATETIME` column keeps of an instant: whole seconds. -/
def toDatetime (t : Instant) : Datetime := t / 1000000

/-! ### Entities -/

/-- `App\Entity\Livre`. -/
structure Livre where
  id : Option ℕ
  titre : Option String
  dateSortie : Option Date
  langue : Option String
  photoCouverture : Option String
  deriving DecidableEq

/-- `App\Entity\Utilisateur`. -/
structure Utilisateur where
  id : Option ℕ
  email : Option String
  roles : List String
  password : Option String
  nom : Option String
  prenom : Option String
  dateAdhesion : Option Datetime
  dateNaiss : Option Date
  adressePostale : Option String
  numTel : Option String
  photo : Option String
  deriving DecidableEq

/-- `App\Entity\Emprunt`; the associations are the ids of the referenced rows. -/
structure Emprunt where
  id : Option ℕ
  dateEmprunt : Option Datetime
  dateRetour : Option Datetime
  utilisateur : Option ℕ
  livre : Option ℕ
  deriving DecidableEq

/-- `App\Entity\Reservations`. -/
structure Reservations where
  id : Option ℕ
  dateResa : Option Datetime
  utilisateur : Option ℕ
  livre : Option ℕ
  deriving DecidableEq

/-! ### Rows -/

/-- A row of `livre`. -/
structure LivreRow where
  id : ℕ
  titre : String
  dateSortie : Option Date
  langue : String
  photoCouverture : Option String
  deriving DecidableEq

/-- A row of `utilisateur`; `roles` is the decoded JSON column. -/
structure UtilisateurRow where
  id : ℕ
  email : String
  roles : List String
  password : String
  nom : Option String
  prenom : Option String
  dateAdhesion : Datetime
  dateNaiss : Option Date
  adressePostale : Option String
  numTel : Option String
  photo : Option String
  deriving DecidableEq

/-- A row of `emprunt`. -/
structure EmpruntRow where
  id : ℕ
  dateEmprunt : Datetime
  dateRetour : Option Datetime
  utilisateur : ℕ
  livre : ℕ
  deriving DecidableEq

/-- A row of `reservations`. -/
structure ReservationsRow where
  id : ℕ
  dateResa : Datetime
  utilisateur : ℕ
  livre : ℕ
  deriving DecidableEq

instance : Keyed LivreRow := ⟨LivreRow.id, fun n r => { r with id := n }, fun _ _ => rfl⟩
instance : Keyed UtilisateurRow :=
  ⟨UtilisateurRow.id, fun n r => { r with id := n }, fun _ _ => rfl⟩
instance : Keyed EmpruntRow := ⟨EmpruntRow.id, fun n r => { r with id := n }, fun _ _ => rfl⟩
instance : Keyed ReservationsRow :=
  ⟨ReservationsRow.id, fun n r => { r with id := n }, fun _ _ => rfl⟩

/-- The object Doctrine hydrates from a row of `emprunt`. -/
def EmpruntRow.toEntity (r : EmpruntRow) : Emprunt where
  id := some r.id
  dateEmprunt := some r.dateEmprunt
  dateRetour := r.dateRetour
  utilisateur := some r.utilisateur
  livre := some r.livre

/-- The object Doctrine hydrates from a row of `utilisateur`. -/
def UtilisateurRow.toEntity (r : UtilisateurRow) : Utilisateur where
  id := some r.id
  email := some r.email
  roles := r.roles
  password := some r.password
  nom := r.nom
  prenom := r.prenom
  dateAdhesion := some r.dateAdhesion
  dateNaiss := r.dateNaiss
  adressePostale := r.adressePostale
  numTel := r.numTel
  photo := r.photo

/-- A loan that has not been returned: `date_retour IS NULL`. -/
def EmpruntRow.enCours (e : EmpruntRow) : Bool := e.dateRetour.isNone

/-! ### Tables and statements -/

/-- The committed contents of the database.  Two emails are equal for the database when their
keys under the collation of the `email` column are. -/
structure Tables where
  livre : Table LivreRow
  utilisateur : Table UtilisateurRow
  emprunt : Table EmpruntRow
  reservations : Table ReservationsRow
  emailKey : String → String

/-- The SQL statements of the flushes. -/
inductive Statement where
  | insertLivre (v : Livre)
  | updateLivre (id : ℕ) (original : LivreRow) (v : Livre)
  | deleteLivre (id : ℕ)
  | insertUtilisateur (v : Utilisateur)
  | updateUtilisateur (id : ℕ) (original : UtilisateurRow) (v : Utilisateur)
  | deleteUtilisateur (id : ℕ)
  | insertEmprunt (v : Emprunt)
  | updateEmprunt (id : ℕ) (original : EmpruntRow) (v : Emprunt)
  | deleteEmprunt (id : ℕ)
  | insertReservations (v : Reservations)
  | updateReservations (id : ℕ) (original : ReservationsRow) (v : Reservations)
  | deleteReservations (id : ℕ)
  deriving DecidableEq

/-- The value a column gets from an `UPDATE`: the new one if it differs from the original data of
the entity, else what the row holds. -/
def changed {β : Type} [DecidableEq β] (original new current : β) : β :=
  if new = original then current else new

/-- What a `VARCHAR(n)` column keeps of a value: its first `n` characters. -/
def couper (n : ℕ) (t : String) : String := String.ofList (t.toList.take n)

/-- `changed` for a column that keeps a part of its values. -/
def changedTo {β : Type} [DecidableEq β] (keep : β → β) (original new current : β) : β :=
  if new = original then current else keep new

/-- A value fits a `VARCHAR(n)` column: beyond its first `n` characters there are only spaces. -/
def fits (n : ℕ) (v : Option String) : Bool := v.all fun t => (t.toList.drop n).all (· == ' ')

/-- The `VARCHAR` columns of `utilisateur`. -/
def Utilisateur.fits (v : Utilisateur) : Bool :=
  Biblio.fits 180 v.email && Biblio.fits 255 v.password && Biblio.fits 100 v.nom
    && Biblio.fits 100 v.prenom && Biblio.fits 255 v.adressePostale && Biblio.fits 20 v.numTel
    && Biblio.fits 255 v.photo

/-- The `VARCHAR` columns of `livre`. -/
def Livre.fits (v : Livre) : Bool :=
  Biblio.fits 255 v.titre && Biblio.fits 50 v.langue && Biblio.fits 255 v.photoCouverture

namespace Tables

/-- Two emails are equal under the collation of the column. -/
def memeEmail (s : Tables) (e e' : String) : Bool := s.emailKey e == s.emailKey e'

/-- `findOneBy(['email' => $email])`. -/
def findByEmail (s : Tables) (email : String) : Option UtilisateurRow :=
  s.utilisateur.rows.find? fun r => s.memeEmail r.email email

/-- No row other than that of key `id` has this email: the unique key of the column. -/
def emailLibre (s : Tables) (id : ℕ) (email : String) : Bool :=
  s.utilisateur.others id (fun r => s.memeEmail r.email email) == 0

/-- A foreign key to `utilisateur` refers to a row. -/
def hasUtilisateur (s : Tables) (id : ℕ) : Bool := (s.utilisateur.find id).isSome

/-- A foreign key to `livre` refers to a row. -/
def hasLivre (s : Tables) (id : ℕ) : Bool := (s.livre.find id).isSome

end Tables

/-- The effect of a statement; `none` if it violates a constraint. -/
def exec : Statement → Tables → Option Tables
  | .insertLivre v, s =>
    match v.titre, v.langue with
    | some titre, some langue =>
      if v.fits then
        some { s with
          livre := s.livre.insert
            ⟨0, couper 255 titre, v.dateSortie, couper 50 langue,
              v.photoCouverture.map (couper 255)⟩ }
      else none
    | _, _ => none
  | .updateLivre id o v, s =>
    match v.titre, v.langue with
    | some titre, some langue =>
      if v.fits then
        some { s with
          livre := s.livre.update id fun r =>
            { r with
              titre := changedTo (couper 255) o.titre titre r.titre
              dateSortie := changed o.dateSortie v.dateSortie r.dateSortie
              langue := changedTo (couper 50) o.langue langue r.langue
              photoCouverture := changedTo (Option.map (couper 255))
                o.photoCouverture v.photoCouverture r.photoCouverture } }
      else none
    | _, _ => none
  | .deleteLivre id, s =>
    if s.emprunt.count (fun e => e.livre == id) = 0 ∧
        s.reservations.count (fun r => r.livre == id) = 0 then
      some { s with livre := s.livre.delete id }
    else none
  | .insertUtilisateur v, s =>
    match v.email, v.password, v.dateAdhesion with
    | some email, some password, some dateAdhesion =>
      if v.fits ∧ s.emailLibre 0 (couper 180 email) then
        some { s with
          utilisateur := s.utilisateur.insert
            ⟨0, couper 180 email, v.roles, couper 255 password, v.nom.map (couper 100),
              v.prenom.map (couper 100), dateAdhesion, v.dateNaiss,
              v.adressePostale.map (couper 255), v.numTel.map (couper 20),
              v.photo.map (couper 255)⟩ }
      else none
    | _, _, _ => none
  | .updateUtilisateur id o v, s =>
    match v.email, v.password, v.dateAdhesion with
    | some email, some password, some dateAdhesion =>
      if v.fits ∧ (email = o.email ∨ s.emailLibre id (couper 180 email)) then
        some { s with
          utilisateur := s.utilisateur.update id fun r =>
            { r with
              email := changedTo (couper 180) o.email email r.email
              roles := changed o.roles v.roles r.roles
              password := changedTo (couper 255) o.password password r.password
              nom := changedTo (Option.map (couper 100)) o.nom v.nom r.nom
              prenom := changedTo (Option.map (couper 100)) o.prenom v.prenom r.prenom
              dateAdhesion := changed o.dateAdhesion dateAdhesion r.dateAdhesion
              dateNaiss := changed o.dateNaiss v.dateNaiss r.dateNaiss
              adressePostale := changedTo (Option.map (couper 255))
                o.adressePostale v.adressePostale r.adressePostale
              numTel := changedTo (Option.map (couper 20)) o.numTel v.numTel r.numTel
              photo := changedTo (Option.map (couper 255)) o.photo v.photo r.photo } }
      else none
    | _, _, _ => none
  | .deleteUtilisateur id, s =>
    if s.emprunt.count (fun e => e.utilisateur == id) = 0 ∧
        s.reservations.count (fun r => r.utilisateur == id) = 0 then
      some { s with utilisateur := s.utilisateur.delete id }
    else none
  | .insertEmprunt v, s =>
    match v.dateEmprunt, v.utilisateur, v.livre with
    | some dateEmprunt, some utilisateur, some livre =>
      if s.hasUtilisateur utilisateur ∧ s.hasLivre livre then
        some { s with
          emprunt := s.emprunt.insert ⟨0, dateEmprunt, v.dateRetour, utilisateur, livre⟩ }
      else none
    | _, _, _ => none
  | .updateEmprunt id o v, s =>
    match v.dateEmprunt, v.utilisateur, v.livre with
    | some dateEmprunt, some utilisateur, some livre =>
      if (utilisateur = o.utilisateur ∨ s.hasUtilisateur utilisateur) ∧
          (livre = o.livre ∨ s.hasLivre livre) then
        some { s with
          emprunt := s.emprunt.update id fun r =>
            { r with
              dateEmprunt := changed o.dateEmprunt dateEmprunt r.dateEmprunt
              dateRetour := changed o.dateRetour v.dateRetour r.dateRetour
              utilisateur := changed o.utilisateur utilisateur r.utilisateur
              livre := changed o.livre livre r.livre } }
      else none
    | _, _, _ => none
  | .deleteEmprunt id, s => some { s with emprunt := s.emprunt.delete id }
  | .insertReservations v, s =>
    match v.dateResa, v.utilisateur, v.livre with
    | some dateResa, some utilisateur, some livre =>
      if s.hasUtilisateur utilisateur ∧ s.hasLivre livre then
        some { s with
          reservations := s.reservations.insert ⟨0, dateResa, utilisateur, livre⟩ }
      else none
    | _, _, _ => none
  | .updateReservations id o v, s =>
    match v.dateResa, v.utilisateur, v.livre with
    | some dateResa, some utilisateur, some livre =>
      if (utilisateur = o.utilisateur ∨ s.hasUtilisateur utilisateur) ∧
          (livre = o.livre ∨ s.hasLivre livre) then
        some { s with
          reservations := s.reservations.update id fun r =>
            { r with
              dateResa := changed o.dateResa dateResa r.dateResa
              utilisateur := changed o.utilisateur utilisateur r.utilisateur
              livre := changed o.livre livre r.livre } }
      else none
    | _, _, _ => none
  | .deleteReservations id, s => some { s with reservations := s.reservations.delete id }

instance : Database Tables Statement := ⟨exec⟩

/-! ### Answers -/

/-- A constraint violation reported by a validator: the message and the property path. -/
structure Violation where
  message : String
  path : String
  deriving DecidableEq

/-- What a request answers. -/
inductive Reponse where
  /-- A JSON body holding a message, or an error text. -/
  | json (status : ℕ) (message : String)
  /-- A JSON body holding the serialized account. -/
  | jsonUtilisateur (u : Utilisateur)
  /-- A redirection with a flash message of a type. -/
  | flash (type message : String)
  /-- EasyAdmin saved or deleted the entity, and redirects. -/
  | enregistre
  /-- EasyAdmin shows the form again, with the violations. -/
  | formulaireInvalide (violations : List Violation)
  /-- EasyAdmin shows the edit form of a loan, filled with its values. -/
  | formulaireEmprunt (e : Emprunt)
  /-- An exception left the handler. -/
  | exception (status : ℕ) (message : String)
  deriving DecidableEq

/-- The HTTP status of an answer. -/
def Reponse.status : Reponse → ℕ
  | json status _ => status
  | jsonUtilisateur _ => 200
  | flash _ _ => 302
  | enregistre => 302
  | formulaireInvalide _ => 422
  | formulaireEmprunt _ => 200
  | exception status _ => status

/-- A handler of this application. -/
abbrev Handler := Prog Tables Statement Reponse

end Biblio
