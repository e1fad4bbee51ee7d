import Biblio.Pagination

/-!
# The lists of the Angular client

`LivresList` and `AuteursList` are one component with different search fields: `Liste κ β`, where
`κ` are the texts of the fields and `β` the rows.  A call of `ApiService` is in flight from
`loadLivres` to its answer.  Calls are numbered, because an answer is handled whichever call it
belongs to: nothing cancels or compares them.

Page numbers are integers, as the template passes them to `goToPage`.
-/

namespace Biblio

/-- A call of `getLivres` or `getAuteurs`, with its arguments. -/
structure Demande (κ : Type) where
  numero : ℕ
  criteres : κ
  page : ℤ
  deriving DecidableEq

/-- What a subscriber is given. -/
inductive Retour (β : Type) where
  | next (response : Resultat β)
  | error
  deriving DecidableEq

/-- The signals of the component, the calls in flight in the order they were issued, how many have
been issued, and the last of them once it is answered. -/
structure Liste (κ β : Type) where
  lignes : List β
  isLoading : Bool
  criteres : κ
  page : ℤ
  totalPages : ℕ
  enVol : List (Demande κ)
  emis : ℕ
  derniere : Option (Demande κ × Retour β)
  deriving DecidableEq

/-- What happens to a component. -/
inductive PasListe (κ β : Type) where
  /-- The fields are bound both ways: a text is in its signal as it is typed. -/
  | saisir (criteres : κ)
  | onSearch
  | goToPage (p : ℤ)
  /-- The answer to the `i`-th call in flight. -/
  | retour (i : ℕ) (r : Retour β)
  deriving DecidableEq

namespace Liste

variable {κ β : Type}

/-- The initial signals, for blank fields. -/
def constructeur (criteres : κ) : Liste κ β where
  lignes := []
  isLoading := true
  criteres := criteres
  page := 1
  totalPages := 1
  enVol := []
  emis := 0
  derniere := none

/-- `loadLivres` and `loadAuteurs`, up to the subscription. -/
def load (s : Liste κ β) : Liste κ β :=
  { s with
    isLoading := true
    enVol := s.enVol ++ [⟨s.emis + 1, s.criteres, s.page⟩]
    emis := s.emis + 1
    derniere := none }

/-- The subscriber. -/
def recevoir (s : Liste κ β) : Retour β → Liste κ β
  | .next response =>
    { s with lignes := response.data, totalPages := response.totalPages, isLoading := false }
  | .error => { s with isLoading := false }

def onSearch (s : Liste κ β) : Liste κ β := load { s with page := 1 }

def goToPage (s : Liste κ β) (p : ℤ) : Liste κ β :=
  if p ≥ 1 ∧ p ≤ s.totalPages then load { s with page := p } else s

/-- An answer arrives for the `i`-th call in flight. -/
def retour (s : Liste κ β) (i : ℕ) (r : Retour β) : Liste κ β :=
  match s.enVol[i]? with
  | some a =>
    recevoir { s with
      enVol := s.enVol.eraseIdx i
      derniere := if a.numero = s.emis then some (a, r) else s.derniere } r
  | none => s

/-- One step of either component. -/
def step (s : Liste κ β) : PasListe κ β → Liste κ β
  | .saisir criteres => { s with criteres := criteres }
  | .onSearch => s.onSearch
  | .goToPage p => s.goToPage p
  | .retour i r => s.retour i r

end Liste

/-- The answer of the API, as the subscriber gets it. -/
def ReponsePage.retour {β : Type} : ReponsePage β → Retour β
  | .page r => .next r
  | .badRequest => .error
  | .erreur => .error

/-! ### Books -/

namespace LivresList

structure Criteres where
  searchTitre : String
  searchAuteur : String
  searchCategorie : String
  deriving DecidableEq

abbrev Etat := Liste Criteres LivreLu

def constructeur : Etat := Liste.constructeur ⟨"", "", ""⟩

def loadLivres (s : Etat) : Etat := s.load

def ngOnInit (s : Etat) : Etat := loadLivres s

def onSearch (s : Etat) : Etat := Liste.onSearch s

def goToPage (s : Etat) (p : ℤ) : Etat := Liste.goToPage s p

def step (s : Etat) : PasListe Criteres LivreLu → Etat
  | .saisir criteres => { s with criteres := criteres }
  | .onSearch => onSearch s
  | .goToPage p => goToPage s p
  | .retour i r => s.retour i r

theorem step_eq : step = Liste.step := by
  funext s pas
  cases pas <;> rfl

/-- The answer of `GET /api/livres` to a call.  The page number travels as text. -/
def repondre (like : String → String → Bool) (c : Catalogue) (ordre : Ordre) (k : Criteres)
    (page : ℤ) : Retour LivreLu :=
  let q := ApiService.getLivres k.searchTitre k.searchAuteur k.searchCategorie page
  (LivreController.get like ordre c q.params (.text (toString q.page))).retour

end LivresList

/-! ### Authors -/

namespace AuteursList

structure Criteres where
  searchNom : String
  deriving DecidableEq

abbrev Etat := Liste Criteres AuteurRow

def constructeur : Etat := Liste.constructeur ⟨""⟩

def loadAuteurs (s : Etat) : Etat := s.load

def ngOnInit (s : Etat) : Etat := loadAuteurs s

def onSearch (s : Etat) : Etat := Liste.onSearch s

def goToPage (s : Etat) (p : ℤ) : Etat := Liste.goToPage s p

def step (s : Etat) : PasListe Criteres AuteurRow → Etat
  | .saisir criteres => { s with criteres := criteres }
  | .onSearch => onSearch s
  | .goToPage p => goToPage s p
  | .retour i r => s.retour i r

theorem step_eq : step = Liste.step := by
  funext s pas
  cases pas <;> rfl

/-- The answer of `GET /api/auteurs` to a call. -/
def repondre (strtod : String → ℤ) (like : String → String → Bool) (c : Catalogue) (ordre : Ordre)
    (k : Criteres) (page : ℤ) : Retour AuteurRow :=
  let q := ApiService.getAuteurs k.searchNom page
  (AuteurController.get strtod like ordre c q.params (.text (toString q.page))).retour

end AuteursList

/-! ### Answers in the order of the calls -/

/-- What happens to a component whose calls are answered in their order. -/
inductive PasOrdonne (κ : Type) where
  | saisir (criteres : κ)
  | onSearch
  | goToPage (p : ℤ)
  /-- The oldest call in flight is answered by the API, with the order of ids that its query meets,
  or is lost. -/
  | reponse (ordre : Option Ordre)

/-- One step of a component, whose steps are `step`, in front of an API. -/
def Liste.stepOrdonne {κ β : Type} (step : Liste κ β → PasListe κ β → Liste κ β)
    (repondre : Ordre → κ → ℤ → Retour β) (s : Liste κ β) : PasOrdonne κ → Liste κ β
  | .saisir criteres => step s (.saisir criteres)
  | .onSearch => step s .onSearch
  | .goToPage p => step s (.goToPage p)
  | .reponse (some ordre) =>
    match s.enVol with
    | a :: _ => step s (.retour 0 (repondre ordre a.criteres a.page))
    | [] => s
  | .reponse none => step s (.retour 0 .error)

/-- The list of books in front of `GET /api/livres`. -/
def LivresList.avancer (like : String → String → Bool) (c : Catalogue) :
    LivresList.Etat → PasOrdonne LivresList.Criteres → LivresList.Etat :=
  Liste.stepOrdonne LivresList.step (LivresList.repondre like c)

/-- The list of authors in front of `GET /api/auteurs`. -/
def AuteursList.avancer (strtod : String → ℤ) (like : String → String → Bool) (c : Catalogue) :
    AuteursList.Etat → PasOrdonne AuteursList.Criteres → AuteursList.Etat :=
  Liste.stepOrdonne AuteursList.step (AuteursList.repondre strtod like c)

end Biblio
