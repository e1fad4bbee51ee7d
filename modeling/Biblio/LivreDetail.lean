import Biblio.Base

/-!
# The page of a book

A book as the API serializes it, in the group `livre:read`, and the component of the Angular client
that shows it and reserves it.  `photoCouverture` is in no group, so the page gets none.  The two
flags of a book are methods of the entity over its collections; the button of the page is enabled
when both are false.
-/

namespace Biblio

/-- `Livre::getIsReserve`, over the reservations of a book. -/
def getIsReserve (reservations : List ReservationsRow) : Bool := !reservations.isEmpty

/-- A category in the group `livre:read`. -/
structure CategorieRead where
  id : ℕ
  nom : String
  deriving DecidableEq

/-- A book in the group `livre:read`. -/
structure LivreRead where
  id : ℕ
  titre : String
  dateSortie : Option Date
  langue : String
  auteurs : List AuteurRow
  categories : List CategorieRead
  isReserve : Bool
  isEmprunte : Bool
  deriving DecidableEq

namespace Base

/-- The authors linked to a book. -/
def auteursDe (b : Base) (livre : ℕ) : List AuteurRow :=
  (LivreCrudController.lies livre b.livreAuteur).filterMap b.auteur.find

/-- The categories linked to a book. -/
def categoriesDe (b : Base) (livre : ℕ) : List CategorieRow :=
  (LivreCrudController.lies livre b.livreCategorie).filterMap b.categorie.find

/-- The serialization of a book. -/
def serialiser (b : Base) (l : LivreRow) : LivreRead where
  id := l.id
  titre := l.titre
  dateSortie := l.dateSortie
  langue := l.langue
  auteurs := b.auteursDe l.id
  categories := (b.categoriesDe l.id).map fun c => ⟨c.id, c.nom⟩
  isReserve := getIsReserve (b.tables.reservations.select fun r => r.livre == l.id)
  isEmprunte := getIsEmprunte (b.tables.emprunt.select fun e => e.livre == l.id)

end Base

/-- `GET /api/livres/{id}`; `none` is a 404. -/
def LivreController.lire (b : Base) (id : ℕ) : Option LivreRead :=
  (b.tables.livre.find id).map b.serialiser

/-- The signals of `LivreDetail`; a message is a text with a type. -/
structure LivreDetail where
  livre : Option LivreRead
  message : Option (String × String)
  reserveParMoi : Bool
  deriving DecidableEq

namespace LivreDetail

/-- The initial signals. -/
def constructeur : LivreDetail := ⟨none, none, false⟩

/-- The subscriber of `ngOnInit`. -/
def ngOnInit.next (s : LivreDetail) (data : LivreRead) : LivreDetail :=
  { s with livre := some data }

/-- `[disabled]` of the button. -/
def disabled (l : LivreRead) : Bool := l.isEmprunte || l.isReserve

/-- The subscriber of `onReserve`, on a success. -/
def onReserve.next (s : LivreDetail) (message : String) : LivreDetail where
  message := some (message, "success")
  livre := s.livre.map fun l => { l with isReserve := true }
  reserveParMoi := true

/-- The subscriber of `onReserve`, on an error with the message of its body. -/
def onReserve.error (s : LivreDetail) (message : Option String) : LivreDetail :=
  let errorMsg :=
    match message with
    | some m => if m = "" then "Une erreur est survenue." else m
    | none => "Une erreur est survenue."
  { s with message := some (errorMsg, "danger") }

/-- What the page does with the answer of `ReservationsController::create`. -/
def onReserve (s : LivreDetail) : Reponse → LivreDetail
  | .json status message =>
    if 200 ≤ status ∧ status < 300 then onReserve.next s message
    else onReserve.error s (some message)
  | _ => onReserve.error s none

end LivreDetail

end Biblio
