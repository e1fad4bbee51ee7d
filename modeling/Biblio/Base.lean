import Biblio.Catalogue
import Biblio.Requete
import Biblio.Store.Lift

/-!
# The whole database

The four tables of the lending service with those of the catalogue: authors, categories and the two
link tables of a book.  The rows of a link table are deleted by the database with the book, the
author or the category they refer to (`ON DELETE CASCADE`); nothing else is, and a row that a loan
or a reservation refers to cannot be deleted (`Biblio.Schema`).

`Instruction` lists the statements of this database.  Those of the four tables are as they are
(`prets`), with their cascade; an `INSERT` of a book comes with those of its links, which carry the
id it has generated.  `RequeteBase` lists the requests: those of `Requete`, lifted to this database,
and the pages of books, authors and categories that write the other tables.  The form of a book
binds its two collections; a `Requete` on a book is one that leaves them as they are.
-/

namespace Biblio

open Prog

/-! ### Entities -/

/-- `App\Entity\Auteur`, as far as its form binds it. -/
structure Auteur where
  nom : Option String
  prenom : Option String
  photo : Option String
  deriving DecidableEq

/-- `App\Entity\Categorie`. -/
structure Categorie where
  nom : Option String
  description : Option String
  deriving DecidableEq

/-- The `VARCHAR` columns of `auteur`. -/
def Auteur.fits (v : Auteur) : Bool :=
  Biblio.fits 255 v.nom && Biblio.fits 255 v.prenom && Biblio.fits 255 v.photo

/-- The `VARCHAR` column of `categorie`. -/
def Categorie.fits (v : Categorie) : Bool := Biblio.fits 100 v.nom

/-! ### Tables -/

/-- The rows of a link table: a book, and what it is linked to. -/
abbrev Liens := List (ℕ × ℕ)

/-- The committed contents of the whole database. -/
structure Base where
  tables : Tables
  auteur : Table AuteurRow
  categorie : Table CategorieRow
  livreAuteur : Liens
  livreCategorie : Liens

namespace Base

/-- A foreign key to `auteur` refers to a row. -/
def hasAuteur (b : Base) (id : ℕ) : Bool := (b.auteur.find id).isSome

/-- A foreign key to `categorie` refers to a row. -/
def hasCategorie (b : Base) (id : ℕ) : Bool := (b.categorie.find id).isSome

end Base

namespace Liens

/-- `INSERT` of a link: both foreign keys refer to rows, and the pair is a new key. -/
def inserer (hasLivre hasAutre : ℕ → Bool) (livre autre : ℕ) (liens : Liens) : Option Liens :=
  if hasLivre livre ∧ hasAutre autre ∧ (livre, autre) ∉ liens then some (liens ++ [(livre, autre)])
  else none

/-- `DELETE` of a link. -/
def retirer (livre autre : ℕ) (liens : Liens) : Liens := liens.filter fun e => e != (livre, autre)

/-- The cascade of the deletion of a book. -/
def sansLivre (livre : ℕ) (liens : Liens) : Liens := liens.filter fun e => e.1 != livre

/-- The cascade of the deletion of an author or a category. -/
def sansAutre (autre : ℕ) (liens : Liens) : Liens := liens.filter fun e => e.2 != autre

end Liens

/-! ### Statements -/

/-- The statements of the flushes. -/
inductive Instruction where
  | prets (w : Statement)
  | insertLivre (v : Livre) (auteurs categories : List ℕ)
  | insertLivreAuteur (livre auteur : ℕ)
  | deleteLivreAuteur (livre auteur : ℕ)
  | insertLivreCategorie (livre categorie : ℕ)
  | deleteLivreCategorie (livre categorie : ℕ)
  | insertAuteur (v : Auteur)
  | updateAuteur (id : ℕ) (original : AuteurRow) (v : Auteur)
  | deleteAuteur (id : ℕ)
  | insertCategorie (v : Categorie)
  | updateCategorie (id : ℕ) (original : CategorieRow) (v : Categorie)
  | deleteCategorie (id : ℕ)
  deriving DecidableEq

/-- What the database deletes from a link table with a statement. -/
def Statement.cascade : Statement → Liens → Liens
  | .deleteLivre id, liens => liens.sansLivre id
  | _, liens => liens

namespace Base

def insertLivreAuteur (b : Base) (livre auteur : ℕ) : Option Base :=
  (b.livreAuteur.inserer b.tables.hasLivre b.hasAuteur livre auteur).map fun liens =>
    { b with livreAuteur := liens }

def insertLivreCategorie (b : Base) (livre categorie : ℕ) : Option Base :=
  (b.livreCategorie.inserer b.tables.hasLivre b.hasCategorie livre categorie).map fun liens =>
    { b with livreCategorie := liens }

end Base

/-- The effect of a statement; `none` if it violates a constraint. -/
def execBase : Instruction → Base → Option Base
  | .prets w, b =>
    (exec w b.tables).map fun tables =>
      { b with
        tables := tables
        livreAuteur := w.cascade b.livreAuteur
        livreCategorie := w.cascade b.livreCategorie }
  | .insertLivre v auteurs categories, b => do
    let tables ← exec (.insertLivre v) b.tables
    -- the links carry the key that the book has just got
    let livre := b.tables.livre.next
    let b ← auteurs.foldlM (fun b a => b.insertLivreAuteur livre a) { b with tables := tables }
    categories.foldlM (fun b c => b.insertLivreCategorie livre c) b
  | .insertLivreAuteur livre auteur, b => b.insertLivreAuteur livre auteur
  | .deleteLivreAuteur livre auteur, b =>
    some { b with livreAuteur := b.livreAuteur.retirer livre auteur }
  | .insertLivreCategorie livre categorie, b => b.insertLivreCategorie livre categorie
  | .deleteLivreCategorie livre categorie, b =>
    some { b with livreCategorie := b.livreCategorie.retirer livre categorie }
  | .insertAuteur v, b =>
    match v.nom, v.prenom with
    | some nom, some prenom =>
      if v.fits then
        some { b with
          auteur := b.auteur.insert
            ⟨0, couper 255 nom, couper 255 prenom, v.photo.map (couper 255), none⟩ }
      else none
    | _, _ => none
  | .updateAuteur id o v, b =>
    match v.nom, v.prenom with
    | some nom, some prenom =>
      if v.fits then
        some { b with
          auteur := b.auteur.update id fun r =>
            { r with
              nom := changedTo (couper 255) o.nom nom r.nom
              prenom := changedTo (couper 255) o.prenom prenom r.prenom
              photo := changedTo (Option.map (couper 255)) o.photo v.photo r.photo } }
      else none
    | _, _ => none
  | .deleteAuteur id, b =>
    some { b with auteur := b.auteur.delete id, livreAuteur := b.livreAuteur.sansAutre id }
  | .insertCategorie v, b =>
    match v.nom with
    | some nom =>
      if v.fits then
        some { b with categorie := b.categorie.insert ⟨0, couper 100 nom, v.description⟩ }
      else none
    | none => none
  | .updateCategorie id o v, b =>
    match v.nom with
    | some nom =>
      if v.fits then
        some { b with
          categorie := b.categorie.update id fun r =>
            { r with
              nom := changedTo (couper 100) o.nom nom r.nom
              description := changed o.description v.description r.description } }
      else none
    | none => none
  | .deleteCategorie id, b =>
    some { b with
      categorie := b.categorie.delete id
      livreCategorie := b.livreCategorie.sansAutre id }

instance : Database Base Instruction := ⟨execBase⟩

/-- A handler on the whole database. -/
abbrev HandlerBase := Prog Base Instruction Reponse

/-- A handler of the lending service, on the whole database. -/
def Handler.surBase (p : Handler) : HandlerBase := p.lift Base.tables Instruction.prets

/-! ### Pages of the catalogue -/

/-- The pages NEW, EDIT and DELETE of the catalogue are for administrators. -/
def pourAdmin (acteur : List String) (page : HandlerBase) : HandlerBase :=
  if !isGranted acteur "ROLE_ADMIN" then return .exception 403 "Access Denied." else page

/-- A page about a row, which is looked for first. -/
def pageDe {ρ : Type} (trouver : Base → Option ρ) (page : ρ → HandlerBase) : HandlerBase := do
  match ← read trouver with
  | none => return .exception 404 "Not Found"
  | some row => page row

/-- The flush of EasyAdmin, and its answer. -/
def flushEtRepondre (ws : List Instruction) : HandlerBase := do
  let committed ← save ws
  return apresFlush committed

namespace LivreCrudController

/-- The fields of the two collections: every choice is an existing row. -/
def choixLiens (auteurs categories : List ℕ) : Prog Base Instruction (List Violation) :=
  read fun b : Base =>
    (if auteurs.all b.hasAuteur then [] else [choixInvalide "auteurs"]) ++
      if categories.all b.hasCategorie then [] else [choixInvalide "categories"]

/-- The page NEW, with the collections of the form. -/
def newLie (services : Services) (acteur : List String) (form : Livre)
    (auteurs categories : List ℕ) : HandlerBase :=
  pourAdmin acteur do
    let invalides ← choixLiens auteurs categories
    if violations services form ++ invalides = [] then
      flushEtRepondre [.insertLivre form auteurs.dedup categories.dedup]
    else return .formulaireInvalide (violations services form ++ invalides)

/-- What a link table of the book `livre` lists. -/
def lies (livre : ℕ) (liens : Liens) : List ℕ := (liens.filter fun e => e.1 == livre).map Prod.snd

/-- The statements that make the links of a book those of its form: `supprimer` for the links that
are dropped, `inserer` for the new ones. -/
def synchroniser (supprimer inserer : ℕ → Instruction) (lies choisis : List ℕ) :
    List Instruction :=
  (lies.filter fun a => !choisis.contains a).map supprimer ++
    (choisis.dedup.filter fun a => !lies.contains a).map inserer

/-- The page EDIT, with the collections of the form. -/
def editLie (services : Services) (acteur : List String) (entityId : ℕ) (form : Livre)
    (auteurs categories : List ℕ) : HandlerBase :=
  pourAdmin acteur <| pageDe (fun b => b.tables.livre.find entityId) fun row => do
    if form.titre = none ∨ form.langue = none then return argumentNul "string"
    else do
      let invalides ← choixLiens auteurs categories
      if violations services form ++ invalides = [] then do
        let auteursLies ← read fun b : Base => lies entityId b.livreAuteur
        let categoriesLiees ← read fun b : Base => lies entityId b.livreCategorie
        flushEtRepondre ([.prets (.updateLivre entityId row form)] ++
          synchroniser (.deleteLivreAuteur entityId) (.insertLivreAuteur entityId)
            auteursLies auteurs ++
          synchroniser (.deleteLivreCategorie entityId) (.insertLivreCategorie entityId)
            categoriesLiees categories)
      else return .formulaireInvalide (violations services form ++ invalides)

end LivreCrudController

namespace AuteurCrudController

/-- The page NEW. -/
def new (acteur : List String) (form : Auteur) : HandlerBase :=
  pourAdmin acteur (flushEtRepondre [.insertAuteur form])

/-- The page EDIT of the author `entityId`.  `setNom` and `setPrenom` take no null. -/
def edit (acteur : List String) (entityId : ℕ) (form : Auteur) : HandlerBase :=
  pourAdmin acteur <| pageDe (fun b => b.auteur.find entityId) fun row =>
    if form.nom = none ∨ form.prenom = none then return argumentNul "string"
    else flushEtRepondre [.updateAuteur entityId row form]

/-- The action DELETE of the author `entityId`. -/
def delete (acteur : List String) (entityId : ℕ) : HandlerBase :=
  pourAdmin acteur <| pageDe (fun b => b.auteur.find entityId) fun _ =>
    flushEtRepondre [.deleteAuteur entityId]

end AuteurCrudController

namespace CategorieCrudController

/-- The page NEW. -/
def new (acteur : List String) (form : Categorie) : HandlerBase :=
  pourAdmin acteur (flushEtRepondre [.insertCategorie form])

/-- The page EDIT of the category `entityId`.  `setNom` takes no null. -/
def edit (acteur : List String) (entityId : ℕ) (form : Categorie) : HandlerBase :=
  pourAdmin acteur <| pageDe (fun b => b.categorie.find entityId) fun row =>
    if form.nom = none then return argumentNul "string"
    else flushEtRepondre [.updateCategorie entityId row form]

/-- The action DELETE of the category `entityId`. -/
def delete (acteur : List String) (entityId : ℕ) : HandlerBase :=
  pourAdmin acteur <| pageDe (fun b => b.categorie.find entityId) fun _ =>
    flushEtRepondre [.deleteCategorie entityId]

end CategorieCrudController

/-! ### The requests -/

/-- The requests that write the database. -/
inductive RequeteBase where
  | prets (r : Requete)
  | livreNew (acteur : List String) (form : Livre) (auteurs categories : List ℕ)
  | livreEdit (acteur : List String) (entityId : ℕ) (form : Livre) (auteurs categories : List ℕ)
  | auteurNew (acteur : List String) (form : Auteur)
  | auteurEdit (acteur : List String) (entityId : ℕ) (form : Auteur)
  | auteurDelete (acteur : List String) (entityId : ℕ)
  | categorieNew (acteur : List String) (form : Categorie)
  | categorieEdit (acteur : List String) (entityId : ℕ) (form : Categorie)
  | categorieDelete (acteur : List String) (entityId : ℕ)

/-- The handler of a request. -/
def RequeteBase.handler (services : Services) : RequeteBase → HandlerBase
  | prets r => (r.handler services).surBase
  | livreNew acteur form auteurs categories =>
    LivreCrudController.newLie services acteur form auteurs categories
  | livreEdit acteur entityId form auteurs categories =>
    LivreCrudController.editLie services acteur entityId form auteurs categories
  | auteurNew acteur form => AuteurCrudController.new acteur form
  | auteurEdit acteur entityId form => AuteurCrudController.edit acteur entityId form
  | auteurDelete acteur entityId => AuteurCrudController.delete acteur entityId
  | categorieNew acteur form => CategorieCrudController.new acteur form
  | categorieEdit acteur entityId form => CategorieCrudController.edit acteur entityId form
  | categorieDelete acteur entityId => CategorieCrudController.delete acteur entityId

/-- The small library with a catalogue: an author of both books, and a category of the first. -/
def Exemple.base (emprunt : Table EmpruntRow) (reservations : Table ReservationsRow) : Base where
  tables := Exemple.tables emprunt reservations
  auteur := Table.empty.insert ⟨0, "Gillet", "Aurore", none, none⟩
  categorie := Table.empty.insert ⟨0, "Roman", none⟩
  livreAuteur := [(1, 1), (2, 1)]
  livreCategorie := [(1, 1)]

end Biblio
