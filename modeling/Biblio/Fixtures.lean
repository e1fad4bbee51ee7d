import Biblio.Base
import Biblio.Store.Load

/-!
# The seeded database

`AppFixtures::load`, which `doctrine:fixtures:load` runs on a database that it has emptied
(`Base.purge`): five categories, five authors, twenty books, two members of staff, ten members and
fifteen loans, written in one flush.  Entities are inserted in the order in which they are
persisted, and an association becomes the key that the other entity has got.

What Faker draws is given by `Tirages`, whose fields keep to the ranges `load` asks for: `Fin` for
an element of an array, the two ends of `dateTimeBetween` for the dates of a loan, and for a text
the length of its column, which none of Faker's exceeds.  The ranges of the other dates are left
open.  The clock is read anew for every date; time is UTC, as nothing sets a zone, so that thirty
days are as many seconds and a date that is formatted and read again is the same one.
-/

namespace Biblio

/-! ### Draws -/

/-- A text for a `VARCHAR(n)` column. -/
abbrev Texte (n : ℕ) := {t : String // t.length ≤ n}

/-- The salt of a password, and the clock at `new \DateTime()`. -/
structure PersonnelTire where
  sel : ℕ
  now : Instant

/-- The draws for an author. -/
structure AuteurTire where
  nom : Texte 255
  prenom : Texte 255
  description : String

/-- The draws for a book: `words(3, true)`, a date, a language, and distinct elements of the
categories and of the authors. -/
structure LivreTire where
  mots : Texte 255
  dateSortie : Date
  langue : Fin 3
  categories : List (Fin 5)
  auteurs : List (Fin 5)
  categories_nodup : categories.Nodup
  categories_length : 1 ≤ categories.length ∧ categories.length ≤ 3
  auteurs_nodup : auteurs.Nodup
  auteurs_length : 1 ≤ auteurs.length ∧ auteurs.length ≤ 2

/-- The draws for a member. -/
structure AdherentTire where
  sel : ℕ
  nom : Texte 100
  prenom : Texte 100
  dateAdhesion : Datetime
  dateNaiss : Date
  adressePostale : Texte 255
  numTel : Texte 20

/-- `strtotime('-30 days')`. -/
def moins30Jours (now : Datetime) : Datetime := now - 30 * 86400

/-- The draws for a loan; there is a return date where `boolean(50)` is true.  `now` and `now'` are
the clock at the two draws of a date. -/
structure EmpruntTire where
  adherent : Fin 10
  livre : Fin 20
  now : Datetime
  dateEmprunt : Datetime
  now' : Datetime
  dateRetour : Option Datetime
  dateEmprunt_between : moins30Jours now ≤ dateEmprunt ∧ dateEmprunt ≤ now
  dateRetour_between : ∀ d, dateRetour = some d → dateEmprunt ≤ d ∧ d ≤ now'

/-- Everything `load` draws.  Of a category that is its description. -/
structure Tirages where
  categories : Fin 5 → String
  auteurs : Fin 5 → AuteurTire
  livres : Fin 20 → LivreTire
  admin : PersonnelTire
  biblio : PersonnelTire
  adherents : Fin 10 → AdherentTire
  emprunts : Fin 15 → EmpruntTire

/-! ### Entities -/

/-- `ucfirst`, which knows the letters of ASCII. -/
def ucfirst (s : String) : String :=
  match s.toList with
  | [] => s
  | c :: cs => String.ofList (c.toUpper :: cs)

namespace AppFixtures

def nomsCategories : Vector String 5 :=
  #v["Science-Fiction", "Roman Policier", "Fantasy", "Documentaire", "Bande Dessinée"]

def langues : Vector String 3 := #v["Français", "Anglais", "Espagnol"]

/-- The address of a picture. -/
def picsum (seed : String) (i : ℕ) (taille : String) : String :=
  "https://picsum.photos/seed/" ++ seed ++ toString i ++ "/" ++ taille

/-- The `INSERT` of an author, with the description that the form of authors does not bind. -/
def insertAuteur (i : Fin 5) (a : AuteurTire) (b : Base) : Option Base :=
  let photo := picsum "auteur" i "200/300"
  if (Auteur.mk (some a.nom.1) (some a.prenom.1) (some photo)).fits then
    some { b with
      auteur := b.auteur.insert ⟨0, a.nom.1, a.prenom.1, some photo, some a.description⟩ }
  else none

def livre (i : Fin 20) (l : LivreTire) : Livre where
  id := none
  titre := some (ucfirst l.mots.1)
  dateSortie := some l.dateSortie
  langue := some (langues.get l.langue)
  photoCouverture := some (picsum "livre" i "300/400")

/-- An account of the staff. -/
def personnel (email role nom prenom : String) (dateNaiss : Date) (t : PersonnelTire) :
    Utilisateur :=
  { UtilisateurCrudController.vide with
    email := some email
    roles := [role]
    nom := some nom
    prenom := some prenom
    dateAdhesion := some (toDatetime t.now)
    dateNaiss := some dateNaiss }

/-- The head of the library, born on 1980-01-01. -/
def admin : PersonnelTire → Utilisateur :=
  personnel "admin@articles.fr" "ROLE_ADMIN" "Responsable" "Jean" 3652

/-- The librarian, born on 1990-05-15. -/
def biblio : PersonnelTire → Utilisateur :=
  personnel "biblio@articles.fr" "ROLE_BIBLIO" "Bibliothecaire" "Marie" 7439

def emailAdherent (i : Fin 10) : String := "adherent" ++ toString i.val ++ "@articles.fr"

def adherent (i : Fin 10) (t : AdherentTire) : Utilisateur :=
  { UtilisateurCrudController.vide with
    email := some (emailAdherent i)
    roles := ["ROLE_USER"]
    nom := some t.nom.1
    prenom := some t.prenom.1
    dateAdhesion := some t.dateAdhesion
    dateNaiss := some t.dateNaiss
    adressePostale := some t.adressePostale.1
    numTel := some t.numTel.1
    photo := some (picsum "user" i "150/150") }

/-! ### Writing -/

/-- 1. The categories. -/
def creerCategories (t : Tirages) : Load Base (Vector ℕ 5) :=
  Vector.ofFnM fun i =>
    Load.insert (·.categorie.next)
      (execBase (.insertCategorie ⟨some (nomsCategories.get i), some (t.categories i)⟩))

/-- 2. The authors. -/
def creerAuteurs (t : Tirages) : Load Base (Vector ℕ 5) :=
  Vector.ofFnM fun i => Load.insert (·.auteur.next) (insertAuteur i (t.auteurs i))

/-- 3. The books, with their links. -/
def creerLivres (t : Tirages) (categories auteurs : Vector ℕ 5) : Load Base (Vector ℕ 20) :=
  Vector.ofFnM fun i =>
    Load.insert (·.tables.livre.next)
      (execBase (.insertLivre (livre i (t.livres i)) ((t.livres i).auteurs.map auteurs.get)
        ((t.livres i).categories.map categories.get)))

/-- An account, with the hash of its password. -/
def persistCompte (services : Services) (plain : String) (sel : ℕ) (v : Utilisateur) :
    Load Base ℕ := do
  let hash ← StateT.lift (services.hashPassword plain sel)
  Load.insert (·.tables.utilisateur.next)
    (execBase (.prets (.insertUtilisateur { v with password := some hash })))

/-- 4. The accounts, of which those of the members are used later. -/
def creerUtilisateurs (services : Services) (t : Tirages) : Load Base (Vector ℕ 10) := do
  let _ ← persistCompte services "admin" t.admin.sel (admin t.admin)
  let _ ← persistCompte services "biblio" t.biblio.sel (biblio t.biblio)
  Vector.ofFnM fun i =>
    persistCompte services "password" (t.adherents i).sel (adherent i (t.adherents i))

/-- 5. The loans. -/
def creerEmprunts (t : Tirages) (adherents : Vector ℕ 10) (livres : Vector ℕ 20) :
    Load Base (Vector ℕ 15) :=
  Vector.ofFnM fun i =>
    Load.insert (·.tables.emprunt.next)
      (execBase (.prets (.insertEmprunt ⟨none, some (t.emprunts i).dateEmprunt,
        (t.emprunts i).dateRetour, some (adherents.get (t.emprunts i).adherent),
        some (livres.get (t.emprunts i).livre)⟩)))

/-- `AppFixtures::load`. -/
def load (services : Services) (t : Tirages) : Load Base Unit := do
  let categories ← creerCategories t
  let auteurs ← creerAuteurs t
  let livres ← creerLivres t categories auteurs
  let adherents ← creerUtilisateurs services t
  let _ ← creerEmprunts t adherents livres
  return ()

end AppFixtures

/-- What the purger does before `load`: `DELETE` of all rows of every table. -/
def Base.purge (b : Base) : Base where
  tables :=
    { livre := b.tables.livre.clear
      utilisateur := b.tables.utilisateur.clear
      emprunt := b.tables.emprunt.clear
      reservations := b.tables.reservations.clear
      emailKey := b.tables.emailKey }
  auteur := b.auteur.clear
  categorie := b.categorie.clear
  livreAuteur := []
  livreCategorie := []

end Biblio
