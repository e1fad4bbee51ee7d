import Biblio.Catalogue
import Mathlib.Data.List.DropRight

/-!
# The page number of a request

The number of the page is what a client has written in the query string.  The list of books reads it
with `getInt`, which is `FILTER_VALIDATE_INT` and refuses what is not the text of an integer; the
list of authors casts it with `(int)`, which makes a number of every text.

`strtod` stands behind the cast of a number with a point or an exponent.  It is a parameter: the
integer part of the number of floating point that is read at the head of a text, beyond the integers
of PHP for an infinite one.
-/

namespace Biblio

/-- A parameter of the query string: `page=…`, `page[]=…` or neither. -/
inductive Param where
  | absent
  | text (s : String)
  | tableau
  deriving DecidableEq

/-! ### Integers in texts -/

/-- `PHP_INT_MIN`. -/
def phpIntMin : ℤ := -9223372036854775808

/-- The sign in front of a number, and what follows. -/
def signe : List Char → ℤ × List Char
  | '-' :: l => (-1, l)
  | '+' :: l => (1, l)
  | l => (1, l)

/-- The blanks that `filter_var` trims. -/
def filterBlank (c : Char) : Bool :=
  c == ' ' || c == '\t' || c == '\n' || c == '\x0b' || c == '\r'

/-- The blanks in front of a number. -/
def numericBlank (c : Char) : Bool := filterBlank c || c == '\x0c'

/-- `FILTER_VALIDATE_INT`, after the trim: a zero, or digits of which the first is none, within the
integers of PHP. -/
def filterParseInt (l : List Char) : Option ℤ :=
  let (sg, chiffres) := signe l
  if chiffres = ['0'] then some 0
  else if chiffres.all Char.isDigit && chiffres.head?.any (fun c => c != '0') then
    let n := sg * Nat.ofDigitChars 10 chiffres 0
    if phpIntMin ≤ n ∧ n ≤ phpIntMax then some n else none
  else none

/-- `filter_var($s, FILTER_VALIDATE_INT)`. -/
def filterValidateInt (s : String) : Option ℤ :=
  filterParseInt ((s.toList.dropWhile filterBlank).rdropWhile filterBlank)

/-- A number out of the integers of PHP becomes the nearest of them. -/
def saturer (n : ℤ) : ℤ := max phpIntMin (min n phpIntMax)

/-- An exponent, after its letter. -/
def exposant : List Char → Bool
  | '-' :: c :: _ => c.isDigit
  | '+' :: c :: _ => c.isDigit
  | c :: _ => c.isDigit
  | [] => false

/-- What follows the digits makes them the beginning of a number of floating point. -/
def flottant : List Char → Bool
  | '.' :: _ => true
  | 'e' :: l => exposant l
  | 'E' :: l => exposant l
  | _ => false

/-- `(int) $s`: the number at the head of the text, zero where there is none. -/
def intval (strtod : String → ℤ) (s : String) : ℤ :=
  let l := s.toList.dropWhile numericBlank
  let (sg, l') := signe l
  let chiffres := l'.takeWhile Char.isDigit
  let suite := l'.dropWhile Char.isDigit
  if chiffres = [] then
    match suite with
    | '.' :: c :: _ => if c.isDigit then saturer (strtod (String.ofList l)) else 0
    | _ => 0
  else if flottant suite then saturer (strtod (String.ofList l))
  else saturer (sg * Nat.ofDigitChars 10 chiffres 0)

/-! ### Controllers -/

/-- `$request->query->getInt('page', 1)`; `none` is a `BadRequestException`. -/
def Param.getInt : Param → Option ℤ
  | absent => some 1
  | text s => filterValidateInt s
  | tableau => none

/-- `(int) $request->query->get('page', 1)`; `none` is a `BadRequestException`. -/
def Param.castInt (strtod : String → ℤ) : Param → Option ℤ
  | absent => some 1
  | text s => some (intval strtod s)
  | tableau => none

/-- The answer to the request for a list. -/
inductive ReponsePage (β : Type) where
  /-- 200, with a page. -/
  | page (r : Resultat β)
  /-- 400: the controller has not let the parameter through. -/
  | badRequest
  /-- 500. -/
  | erreur
  deriving DecidableEq

/-- The answer of a controller that has read `page` and hands it to a search. -/
def repondrePage {β : Type} (page : Option ℤ) (index : ℤ → Option (Resultat β)) : ReponsePage β :=
  match page with
  | none => .badRequest
  | some p =>
    match index p with
    | some r => .page r
    | none => .erreur

/-- `GET /api/livres`. -/
def LivreController.get (like : String → String → Bool) (ordre : Ordre) (c : Catalogue)
    (params : List (String × String)) (page : Param) : ReponsePage LivreLu :=
  repondrePage page.getInt fun p => LivreController.index like ordre c ⟨params, p⟩

/-- `GET /api/auteurs`. -/
def AuteurController.get (strtod : String → ℤ) (like : String → String → Bool) (ordre : Ordre)
    (c : Catalogue) (params : List (String × String)) (page : Param) : ReponsePage AuteurRow :=
  repondrePage (page.castInt strtod) fun p => AuteurController.index like ordre c ⟨params, p⟩

end Biblio
