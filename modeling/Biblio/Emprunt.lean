import Biblio.Schema

/-!
# Loans: the rules and the admin controller

`EmpruntRulesValidator::validate`, the loan side of the entities `Livre` and `Utilisateur`, and
the requests of `EmpruntCrudController`: the EasyAdmin pages NEW, EDIT and DELETE, with the
overridden `persistEntity`, and the action `rendreLivre`.

Of EasyAdmin the handlers follow the order of its controllers: NEW binds the form, validates it
and calls `persistEntity`; EDIT loads the entity, binds the form onto it, validates it and
updates it; DELETE loads the entity and removes it.  A form field for an association accepts the
id of an existing row or the empty choice.  A field left blank is bound as null: a date by its
setter in any case, a text only where the entity has another value, so on EDIT but not on NEW.  A
setter that takes no null ends the request in an exception (`argumentNul`).  As
`Emprunt::setDateEmprunt` is one of these, the branch of `persistEntity` for a loan without a date
is out of reach of the pages.
-/

namespace Biblio

open Prog

/-! ### `EmpruntRules` -/

namespace EmpruntRules

def messageMaxEmprunts : String := "Cet adhérent a déjà atteint la limite de 5 emprunts en cours."

def messageLivreIndisponible : String := "Ce livre est déjà emprunté par un autre adhérent."

end EmpruntRules

/-- `EmpruntRulesValidator::validate`: the violations reported for a loan, by two queries on the
committed loans.  A loan without member or book, or with a return date, is not checked. -/
def EmpruntRulesValidator.validate (value : Emprunt) : Prog Tables Statement (List Violation) :=
  match value.utilisateur, value.livre, value.dateRetour with
  | some user, some livre, none => do
    -- `0` for a new loan
    let empruntId := value.id.getD 0
    let empruntsActuelsUser ← read fun s : Tables =>
      s.emprunt.select fun e => e.utilisateur == user && e.enCours && e.id != empruntId
    let maxEmprunts : List Violation :=
      if empruntsActuelsUser.length ≥ 5 then
        [⟨EmpruntRules.messageMaxEmprunts, "utilisateur"⟩]
      else []
    let empruntsActuelsLivre ← read fun s : Tables =>
      s.emprunt.select fun e => e.livre == livre && e.enCours && e.id != empruntId
    let livreIndisponible : List Violation :=
      if empruntsActuelsLivre.length > 0 then
        [⟨EmpruntRules.messageLivreIndisponible, "livre"⟩]
      else []
    return maxEmprunts ++ livreIndisponible
  | _, _, _ => return []

/-! ### The collections of the entities -/

/-- `Livre::getIsEmprunte`, over the book's loans. -/
def getIsEmprunte : List EmpruntRow → Bool
  | [] => false
  | emprunt :: emprunts => if emprunt.dateRetour = none then true else getIsEmprunte emprunts

/-- The loop of `persistEntity` that counts a member's open loans. -/
def compterEnCours (emprunts : List EmpruntRow) : ℕ :=
  emprunts.foldl (fun n emp => if emp.dateRetour = none then n + 1 else n) 0

/-! ### Form fields -/

/-- The violation EasyAdmin reports on a choice that is not in the list. -/
def choixInvalide (path : String) : Violation := ⟨"The selected choice is invalid.", path⟩

/-- The field of a member: the empty choice, or an existing row. -/
def choixUtilisateur : Option ℕ → Prog Tables Statement (List Violation)
  | none => return []
  | some id => read fun s : Tables =>
    if s.hasUtilisateur id then [] else [choixInvalide "utilisateur"]

/-- The field of a book: the empty choice, or an existing row. -/
def choixLivre : Option ℕ → Prog Tables Statement (List Violation)
  | none => return []
  | some id => read fun s : Tables =>
    if s.hasLivre id then [] else [choixInvalide "livre"]

/-- The answer when a field that is left blank is bound by a setter that takes no null. -/
def argumentNul (type : String) : Reponse :=
  .exception 500 ("Expected argument of type " ++ type ++ ", null given")

/-- The answer after a flush of EasyAdmin. -/
def apresFlush (committed : Bool) : Reponse :=
  if committed then .enregistre else .exception 500 "Integrity constraint violation"

/-! ### `EmpruntCrudController` -/

/-- A loan that has a date keeps it through `persistEntity`. -/
theorem Emprunt.dater_eq {e : Emprunt} (hdate : e.dateEmprunt ≠ none) (d : Datetime) :
    { e with dateEmprunt := some (e.dateEmprunt.getD d) } = e := by
  obtain ⟨dateEmprunt, h⟩ := Option.ne_none_iff_exists'.mp hdate
  rw [h, Option.getD_some, ← h]

namespace EmpruntCrudController

/-- The reservation of a book by a member: `findOneBy(['livre' => .., 'utilisateur' => ..])`. -/
def reservationDe (livre utilisateur : ℕ) (s : Tables) : Option ReservationsRow :=
  s.reservations.rows.find? fun r => r.livre == livre && r.utilisateur == utilisateur

/-- The statements of `persistEntity`: the loan, and the removal of the reservation found. -/
def persistStatements (e : Emprunt) (reservation : Option ReservationsRow) : List Statement :=
  .insertEmprunt e :: (reservation.map fun r => .deleteReservations r.id).toList

/-- `EmpruntCrudController::persistEntity`. -/
def persistEntity (entityInstance : Emprunt) (now : Instant) : Handler :=
  match entityInstance.livre with
  | none => return .exception 500 "Call to a member function getIsEmprunte() on null"
  | some livre => do
    -- a loan without a date starts now
    let e := { entityInstance with
      dateEmprunt := some (entityInstance.dateEmprunt.getD (toDatetime now)) }
    -- the new loan is not yet among the loans of its book and of its member
    let empruntsLivre ← read fun s : Tables => s.emprunt.select fun e => e.livre == livre
    if getIsEmprunte empruntsLivre then
      return .exception 500 "Impossible : Ce livre est déjà emprunté."
    else
      match entityInstance.utilisateur with
      | none => return .exception 500 "Call to a member function getEmprunts() on null"
      | some utilisateur => do
        let empruntsUser ← read fun s : Tables =>
          s.emprunt.select fun e => e.utilisateur == utilisateur
        if compterEnCours empruntsUser ≥ 5 then
          return .exception 500 "Impossible : L'adhérent a atteint son quota de 5 emprunts."
        else do
          -- only a reservation of the borrower is looked for
          let reservation ← read (reservationDe livre utilisateur)
          let committed ← save (persistStatements e reservation)
          return apresFlush committed

/-- The page NEW, submitted with the values of `form`. -/
def new (form : Emprunt) (now : Instant) : Handler := do
  let e := { form with id := none }
  let invalideUtilisateur ← choixUtilisateur e.utilisateur
  let invalideLivre ← choixLivre e.livre
  -- the other fields are bound also if a choice is invalid
  if e.dateEmprunt = none then return argumentNul "DateTime"
  else if invalideUtilisateur ++ invalideLivre = [] then do
    let violations ← EmpruntRulesValidator.validate e
    if violations = [] then persistEntity e now
    else return .formulaireInvalide violations
  else return .formulaireInvalide (invalideUtilisateur ++ invalideLivre)

/-- The page EDIT of the loan `entityId`, as shown. -/
def editForm (entityId : ℕ) : Handler := do
  match ← read fun s : Tables => s.emprunt.find entityId with
  | none => return .exception 404 "Not Found"
  | some row => return .formulaireEmprunt row.toEntity

/-- The page EDIT of the loan `entityId`, submitted with the values of `form`. -/
def edit (entityId : ℕ) (form : Emprunt) : Handler := do
  match ← read fun s : Tables => s.emprunt.find entityId with
  | none => return .exception 404 "Not Found"
  | some row => do
    -- every property of a loan is a field of the form
    let e := { form with id := some entityId }
    let invalideUtilisateur ← choixUtilisateur e.utilisateur
    let invalideLivre ← choixLivre e.livre
    if e.dateEmprunt = none then return argumentNul "DateTime"
    else if invalideUtilisateur ++ invalideLivre = [] then do
      let violations ← EmpruntRulesValidator.validate e
      if violations = [] then do
        let committed ← save [.updateEmprunt entityId row e]
        return apresFlush committed
      else return .formulaireInvalide violations
    else return .formulaireInvalide (invalideUtilisateur ++ invalideLivre)

/-- The action DELETE of the loan `entityId`. -/
def delete (entityId : ℕ) : Handler := do
  match ← read fun s : Tables => s.emprunt.find entityId with
  | none => return .exception 404 "Not Found"
  | some _ => do
    let committed ← save [.deleteEmprunt entityId]
    return apresFlush committed

/-- The update of `rendreLivre`: the return date, and nothing else. -/
def retour (emprunt : EmpruntRow) (now : Instant) : Statement :=
  .updateEmprunt emprunt.id emprunt
    { emprunt.toEntity with dateRetour := some (toDatetime now) }

/-- `EmpruntCrudController::rendreLivre`. -/
def rendreLivre (entityId : ℕ) (now : Instant) : Handler := do
  match ← read fun s : Tables => s.emprunt.find entityId with
  | none => return .flash "danger" "Emprunt introuvable."
  | some emprunt =>
    if emprunt.dateRetour ≠ none then
      return .flash "warning" "Ce livre a déjà été retourné."
    else do
      let committed ← save [retour emprunt now]
      return if committed then
        .flash "success" "Le retour du livre a bien été enregistré."
      else apresFlush false

end EmpruntCrudController

/-! ### Lateness

How many seconds `modify('+15 days')` adds depends on the time zone of the server, so it is a
parameter. -/

/-- A `DATETIME` value as an instant, once it is read back. -/
def toInstant (d : Datetime) : Instant := d * 1000000

/-- `Emprunt::getIsEnRetard`, at the instant `aujourdhui`. -/
def getIsEnRetard (plus15Jours : Datetime → Datetime) (emprunt : EmpruntRow)
    (aujourdhui : Instant) : Bool :=
  let dateLimite := plus15Jours emprunt.dateEmprunt
  match emprunt.dateRetour with
  | some dateRetour => decide (toInstant dateRetour > toInstant dateLimite)
  | none => decide (aujourdhui > toInstant dateLimite)

/-- The status of the PDF sheet. -/
inductive StatutDossier where
  /-- "Clos (Livre restitué)". -/
  | clos
  /-- "En retard (Pénalités applicables)". -/
  | enRetard
  /-- "En cours d'emprunt". -/
  | enCours
  deriving DecidableEq

/-- The status that `fiche_emprunt.html.twig` shows at the instant `aujourdhui`. -/
def statutDossier (plus15Jours : Datetime → Datetime) (emprunt : EmpruntRow)
    (aujourdhui : Instant) : StatutDossier :=
  let dateLimite := plus15Jours emprunt.dateEmprunt
  match emprunt.dateRetour with
  | some _ => .clos
  | none => if aujourdhui > toInstant dateLimite then .enRetard else .enCours

end Biblio
