import Biblio.Php
import Biblio.Schema
import Biblio.Store.Join
import Biblio.Store.Like
import Biblio.Store.Page
import Mathlib.Data.List.Dedup

/-!
# The catalogue and its search

The tables of the catalogue with the links between them, the two `findBySearchCriteria`, the
controllers in front of them and the calls of the Angular client behind which they stand.

Doctrine's `Paginator` runs three queries on one condition: it counts the distinct ids, lists the
distinct ids with `LIMIT` and `OFFSET`, and loads the rows of these ids.  Nothing but the query's
`ORDER BY` fixes the order of the ids, and neither search has one: the order is a parameter,
`Ordre`.  The collections of a loaded book are filled from the joined rows that the condition of
the query has kept.  `LIKE` is a parameter of both searches; `Biblio.Store.Like` defines the one of
the database.

Query parameters arrive as they were sent, and so does the page number, which travels as text.
-/

namespace Biblio

/-! ### Tables -/

/-- A row of `auteur`, as far as the API shows it. -/
structure AuteurRow where
  id : ℕ
  nom : String
  prenom : String
  photo : Option String
  description : Option String
  deriving DecidableEq

/-- A row of `categorie`. -/
structure CategorieRow where
  id : ℕ
  nom : String
  description : Option String
  deriving DecidableEq

instance : Keyed AuteurRow := ⟨AuteurRow.id, fun n r => { r with id := n }, fun _ _ => rfl⟩
instance : Keyed CategorieRow := ⟨CategorieRow.id, fun n r => { r with id := n }, fun _ _ => rfl⟩

/-- The largest value of an `INT` column. -/
def intMax : ℕ := 2147483647

/-- `PHP_INT_MAX`. -/
def phpIntMax : ℤ := 9223372036854775807

/-- The tables of the catalogue, with the keys and lengths of the migrations. -/
structure Catalogue where
  livre : Table LivreRow
  auteur : Table AuteurRow
  categorie : Table CategorieRow
  /-- The pairs of ids `livre_id`, `auteur_id`. -/
  livreAuteur : List (ℕ × ℕ)
  /-- The pairs of ids `livre_id`, `categorie_id`. -/
  livreCategorie : List (ℕ × ℕ)
  livreAuteur_nodup : livreAuteur.Nodup
  livreCategorie_nodup : livreCategorie.Nodup
  livreAuteur_fk : ∀ e ∈ livreAuteur, (livre.find e.1).isSome ∧ (auteur.find e.2).isSome
  livreCategorie_fk : ∀ e ∈ livreCategorie, (livre.find e.1).isSome ∧ (categorie.find e.2).isSome
  livre_int : ∀ r ∈ livre.rows, r.id ≤ intMax
  auteur_int : ∀ r ∈ auteur.rows, r.id ≤ intMax
  titre_fits : ∀ r ∈ livre.rows, r.titre.length ≤ 255
  auteur_fits : ∀ r ∈ auteur.rows, r.nom.length ≤ 255 ∧ r.prenom.length ≤ 255
  categorie_fits : ∀ r ∈ categorie.rows, r.nom.length ≤ 100

namespace Catalogue

/-- The authors linked to a book. -/
def auteursDe (c : Catalogue) (l : LivreRow) : List AuteurRow :=
  (c.livreAuteur.filter fun e => e.1 == l.id).filterMap fun e => c.auteur.find e.2

/-- The categories linked to a book. -/
def categoriesDe (c : Catalogue) (l : LivreRow) : List CategorieRow :=
  (c.livreCategorie.filter fun e => e.1 == l.id).filterMap fun e => c.categorie.find e.2

end Catalogue

/-! ### The paginator -/

/-- How the database orders the distinct ids of a query: it lists each of them once. -/
structure Ordre where
  lister : List ℕ → List ℕ
  perm : ∀ ids, (lister ids).Perm ids

/-- What `findBySearchCriteria` returns. -/
structure Resultat (β : Type) where
  data : List β
  totalPages : ℕ
  currentPage : ℤ
  deriving DecidableEq

/-- The `$limit` of every call. -/
def limite : ℕ := 9

/-- `setFirstResult(($page - 1) * $limit)`: `none` where the product is no integer any more, which
is a `TypeError`, or is negative, which the platform refuses. -/
def premierResultat (page : ℤ) (limit : ℕ) : Option ℕ :=
  let offset := (page - 1) * limit
  if 0 ≤ offset ∧ offset ≤ phpIntMax then some offset.toNat else none

/-- The end of both searches, over the distinct ids `ids` of the rows that the query keeps.
`ceil($totalItems / $limit)` is exact for as many rows as an `INT` key allows. -/
def paginer {β : Type} (ordre : Ordre) (ids : List ℕ) (charger : List ℕ → List β) (page : ℤ)
    (limit : ℕ) : Option (Resultat β) :=
  (premierResultat page limit).map fun offset =>
    let totalItems := ids.length
    let totalPages := (totalItems + limit - 1) / limit
    { data := charger (window offset limit (ordre.lister ids))
      totalPages := if totalPages > 0 then totalPages else 1
      currentPage := page }

/-- `'%' . $critere . '%'`. -/
def motif (critere : Option String) : String := Like.pattern (critere.getD "")

/-! ### Books -/

/-- A `Livre` with its two collections, as it is serialized. -/
structure LivreLu where
  livre : LivreRow
  auteurs : List AuteurRow
  categories : List CategorieRow
  deriving DecidableEq

namespace LivreRepository

/-- A row of the query: a book with one of its authors and one of its categories, or null. -/
abbrev Ligne := (LivreRow × Option AuteurRow) × Option CategorieRow

/-- `FROM livre l LEFT JOIN l.auteurs a LEFT JOIN l.categories c`. -/
def lignes (c : Catalogue) : List Ligne :=
  leftJoin (leftJoin c.livre.rows c.auteursDe) fun r => c.categoriesDe r.1

/-- The `WHERE` clause: a criterion that is `empty()` adds nothing, and null is like no pattern. -/
def garde (like : String → String → Bool) (titre auteur categorie : Option String) (r : Ligne) :
    Bool :=
  (!truthy titre || like r.1.1.titre (motif titre)) &&
    (!truthy auteur || r.1.2.any fun a =>
      like a.nom (motif auteur) || like a.prenom (motif auteur)) &&
    (!truthy categorie || r.2.any fun k => like k.nom (motif categorie))

/-- The rows that the query keeps. -/
def lignesGardees (like : String → String → Bool) (c : Catalogue)
    (titre auteur categorie : Option String) : List Ligne :=
  (lignes c).filter (garde like titre auteur categorie)

/-- The distinct ids of the kept rows. -/
def ids (like : String → String → Bool) (c : Catalogue) (titre auteur categorie : Option String) :
    List ℕ :=
  ((lignesGardees like c titre auteur categorie).map fun r => r.1.1.id).dedup

/-- One object for each book of the rows, its collections filled from its rows. -/
def hydrater (rows : List Ligne) : List LivreLu :=
  (rows.map fun r => r.1.1).dedup.map fun l =>
    let siennes := rows.filter fun r => r.1.1 == l
    ⟨l, (siennes.filterMap fun r => r.1.2).dedup, (siennes.filterMap fun r => r.2).dedup⟩

/-- `LivreRepository::findBySearchCriteria`. -/
def findBySearchCriteria (like : String → String → Bool) (ordre : Ordre) (c : Catalogue)
    (titre auteur categorie : Option String) (page : ℤ) (limit : ℕ) : Option (Resultat LivreLu) :=
  paginer ordre (ids like c titre auteur categorie)
    (fun window => hydrater
      ((lignesGardees like c titre auteur categorie).filter fun r => window.contains r.1.1.id))
    page limit

end LivreRepository

/-! ### Authors -/

namespace AuteurRepository

/-- The `WHERE` clause. -/
def garde (like : String → String → Bool) (nom : Option String) (a : AuteurRow) : Bool :=
  !truthy nom || (like a.nom (motif nom) || like a.prenom (motif nom))

/-- The distinct ids of the kept rows. -/
def ids (like : String → String → Bool) (c : Catalogue) (nom : Option String) : List ℕ :=
  ((c.auteur.select (garde like nom)).map AuteurRow.id).dedup

/-- `AuteurRepository::findBySearchCriteria`. -/
def findBySearchCriteria (like : String → String → Bool) (ordre : Ordre) (c : Catalogue)
    (nom : Option String) (page : ℤ) (limit : ℕ) : Option (Resultat AuteurRow) :=
  paginer ordre (ids like c nom)
    (fun window => (c.auteur.select (garde like nom)).filter fun a => window.contains a.id)
    page limit

end AuteurRepository

/-! ### Controllers and client -/

/-- The query string of a request. -/
structure Query where
  params : List (String × String)
  page : ℤ

/-- `$request->query->get($key, '')`. -/
def Query.get (q : Query) (key : String) : String :=
  ((q.params.find? fun e => e.1 == key).map Prod.snd).getD ""

/-- `LivreController::index`. -/
def LivreController.index (like : String → String → Bool) (ordre : Ordre) (c : Catalogue)
    (q : Query) : Option (Resultat LivreLu) :=
  LivreRepository.findBySearchCriteria like ordre c (some (q.get "titre")) (some (q.get "auteur"))
    (some (q.get "categorie")) q.page limite

/-- `LivreController::show`: the book with the collections Doctrine loads for it; `none` is a
404. -/
def LivreController.show (c : Catalogue) (id : ℕ) : Option LivreLu :=
  (c.livre.find id).map fun l => ⟨l, c.auteursDe l, c.categoriesDe l⟩

/-- `AuteurController::index`. -/
def AuteurController.index (like : String → String → Bool) (ordre : Ordre) (c : Catalogue)
    (q : Query) : Option (Resultat AuteurRow) :=
  AuteurRepository.findBySearchCriteria like ordre c (some (q.get "nom")) q.page limite

namespace ApiService

/-- `if (value) params = params.set(key, value)`. -/
def set (key value : String) : List (String × String) := if value ≠ "" then [(key, value)] else []

def getLivres (titre auteur categorie : String) (page : ℤ) : Query where
  params := set "titre" titre ++ set "auteur" auteur ++ set "categorie" categorie
  page := page

def getAuteurs (nom : String) (page : ℤ) : Query where
  params := set "nom" nom
  page := page

end ApiService

/-! ### A small catalogue -/

namespace Exemple

/-- A collation that folds the ASCII letters. -/
def collation : Like.Collation where
  fold := fun c => c.toLower.toNat
  fold_letter := by decide
  fold_percent := by decide

def like : String → String → Bool := Like.like collation.fold

/-- Ten volumes, of which the first has two authors and a category. -/
def catalogue : Catalogue where
  livre := (List.range 10).foldl
    (fun t _ => t.insert ⟨0, "Natus mollitia ut", none, "Espagnol", none⟩) .empty
  auteur := (Table.empty.insert ⟨0, "Gillet", "Aurore", none, none⟩).insert
    ⟨0, "Roche", "Emmanuel", none, none⟩
  categorie := Table.empty.insert ⟨0, "Roman", none⟩
  livreAuteur := [(1, 1), (1, 2)]
  livreCategorie := [(1, 1)]
  livreAuteur_nodup := by decide
  livreCategorie_nodup := by decide
  livreAuteur_fk := by decide
  livreCategorie_fk := by decide
  livre_int := by decide
  auteur_int := by decide
  titre_fits := by decide
  auteur_fits := by decide
  categorie_fits := by decide

end Exemple

end Biblio
