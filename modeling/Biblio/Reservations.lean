import Biblio.Emprunt

/-!
# Reservations: the rules, the admin controller and the API

`ReservationRulesValidator::validate`, the requests of `ReservationsCrudController` (the EasyAdmin
pages NEW, EDIT and DELETE, and the action `transformerEnEmprunt`) and the two writing requests of
the API, `ReservationsController::create` and `ReservationsController::delete`.

`create` is cut at its queries: `regleQuota`, `regleReserve` and `regleEmprunt` are the three
rules, each with what follows it, and `enregistrer` is the flush.
-/

namespace Biblio

open Prog

/-! ### `ReservationRules` -/

namespace ReservationRules

def messageMaxResa : String :=
  "Cet adhérent a déjà atteint la limite de 3 réservations simultanées."

def messageDejaReserve : String := "Ce livre est déjà réservé par un autre adhérent."

def messageDejaEmprunte : String :=
  "Ce livre est actuellement emprunté, il ne peut pas être réservé."

end ReservationRules

/-- `ReservationRulesValidator::validate`: the violations reported for a reservation, by three
queries on the committed reservations and loans. -/
def ReservationRulesValidator.validate (value : Reservations) :
    Prog Tables Statement (List Violation) :=
  match value.utilisateur, value.livre with
  | some user, some livre => do
    -- an edited reservation is not counted against itself
    let resaId := value.id.getD 0
    let resasUser ← read fun s : Tables =>
      s.reservations.select fun r => r.utilisateur == user && r.id != resaId
    let maxResa : List Violation :=
      if resasUser.length ≥ 3 then [⟨ReservationRules.messageMaxResa, "utilisateur"⟩] else []
    let resasLivre ← read fun s : Tables =>
      s.reservations.select fun r => r.livre == livre && r.id != resaId
    let dejaReserve : List Violation :=
      if resasLivre.length > 0 then [⟨ReservationRules.messageDejaReserve, "livre"⟩] else []
    let empruntsLivre ← read fun s : Tables =>
      s.emprunt.select fun e => e.livre == livre && e.enCours
    let dejaEmprunte : List Violation :=
      if empruntsLivre.length > 0 then [⟨ReservationRules.messageDejaEmprunte, "livre"⟩] else []
    return maxResa ++ dejaReserve ++ dejaEmprunte
  | _, _ => return []

/-! ### `ReservationsCrudController` -/

namespace ReservationsCrudController

/-- The page NEW, submitted with the values of `form`.  `Reservations::setDateResa` takes no
null. -/
def new (form : Reservations) : Handler := do
  let r := { form with id := none }
  let invalideUtilisateur ← choixUtilisateur r.utilisateur
  let invalideLivre ← choixLivre r.livre
  if r.dateResa = none then return argumentNul "DateTimeImmutable"
  else if invalideUtilisateur ++ invalideLivre = [] then do
    let violations ← ReservationRulesValidator.validate r
    if violations = [] then do
      let committed ← save [.insertReservations r]
      return apresFlush committed
    else return .formulaireInvalide violations
  else return .formulaireInvalide (invalideUtilisateur ++ invalideLivre)

/-- The page EDIT of the reservation `entityId`, submitted with the values of `form`. -/
def edit (entityId : ℕ) (form : Reservations) : Handler := do
  match ← read fun s : Tables => s.reservations.find entityId with
  | none => return .exception 404 "Not Found"
  | some row => do
    let r := { form with id := some entityId }
    let invalideUtilisateur ← choixUtilisateur r.utilisateur
    let invalideLivre ← choixLivre r.livre
    if r.dateResa = none then return argumentNul "DateTimeImmutable"
    else if invalideUtilisateur ++ invalideLivre = [] then do
      let violations ← ReservationRulesValidator.validate r
      if violations = [] then do
        let committed ← save [.updateReservations entityId row r]
        return apresFlush committed
      else return .formulaireInvalide violations
    else return .formulaireInvalide (invalideUtilisateur ++ invalideLivre)

/-- The action DELETE of the reservation `entityId`. -/
def delete (entityId : ℕ) : Handler := do
  match ← read fun s : Tables => s.reservations.find entityId with
  | none => return .exception 404 "Not Found"
  | some _ => do
    let committed ← save [.deleteReservations entityId]
    return apresFlush committed

/-- The loan `transformerEnEmprunt` builds from a reservation. -/
def empruntDe (reservation : ReservationsRow) (now : Instant) : Emprunt where
  id := none
  dateEmprunt := some (toDatetime now)
  dateRetour := none
  utilisateur := some reservation.utilisateur
  livre := some reservation.livre

/-- The flush of `transformerEnEmprunt`: the loan in, the reservation out. -/
def transformation (reservation : ReservationsRow) (now : Instant) : List Statement :=
  [.insertEmprunt (empruntDe reservation now), .deleteReservations reservation.id]

/-- `ReservationsCrudController::transformerEnEmprunt`. -/
def transformerEnEmprunt (entityId : ℕ) (now : Instant) : Handler := do
  match ← read fun s : Tables => s.reservations.find entityId with
  | none => return .flash "danger" "Réservation introuvable."
  | some reservation => do
    let erreurs ← EmpruntRulesValidator.validate (empruntDe reservation now)
    match erreurs with
    -- of several violations the first one is shown
    | erreur :: _ => return .flash "danger" erreur.message
    | [] => do
      let committed ← save (transformation reservation now)
      return if committed then
        .flash "success" "La réservation a bien été transformée en emprunt actif."
      else apresFlush false

end ReservationsCrudController

/-! ### `ReservationsController` -/

namespace ReservationsController

/-- The end of `create`: the reservation is written. -/
def enregistrer (user livre : ℕ) (now : Instant) : Handler := do
  let committed ← save [.insertReservations ⟨none, some (toDatetime now), some user, some livre⟩]
  return if committed then .json 201 "Livre réservé avec succès !" else apresFlush false

/-- `create` from its third rule on: is the book on loan? -/
def regleEmprunt (user livre : ℕ) (now : Instant) : Handler := do
  let isBorrowed ← read fun s : Tables =>
    s.emprunt.rows.find? fun e => e.livre == livre && e.enCours
  if isBorrowed.isSome then return .json 409 "Ce livre est actuellement emprunté."
  else enregistrer user livre now

/-- `create` from its second rule on: is the book reserved? -/
def regleReserve (user livre : ℕ) (now : Instant) : Handler := do
  let isReserved ← read fun s : Tables => s.reservations.rows.find? fun r => r.livre == livre
  if isReserved.isSome then return .json 409 "Ce livre est déjà réservé."
  else regleEmprunt user livre now

/-- `create` from its first rule on: at most three reservations. -/
def regleQuota (user livre : ℕ) (now : Instant) : Handler := do
  let activeReservations ← read fun s : Tables =>
    s.reservations.select fun r => r.utilisateur == user
  if activeReservations.length ≥ 3 then return .json 409 "Limite de 3 réservations atteinte."
  else regleReserve user livre now

/-- `create` once the account is known: the route parameter is resolved to a book. -/
def resoudreLivre (user livre : ℕ) (now : Instant) : Handler := do
  match ← read fun s : Tables => s.livre.find livre with
  | none => return .exception 404 "Not Found"
  | some _ => regleQuota user livre now

/-- `ReservationsController::create`, for the account `user`. -/
def create (user livre : ℕ) (now : Instant) : Handler := do
  match ← read fun s : Tables => s.utilisateur.find user with
  | none => return .exception 401 "Unauthorized"
  | some _ => resoudreLivre user livre now

/-- The end of `delete`: the reservation is removed. -/
def annuler (reservation : ℕ) : Handler := do
  let committed ← save [.deleteReservations reservation]
  return if committed then .json 200 "Réservation annulée." else apresFlush false

/-- `delete` once the account is known: the route parameter is resolved to a reservation, which
must be the account's own. -/
def resoudreReservation (user reservation : ℕ) : Handler := do
  match ← read fun s : Tables => s.reservations.find reservation with
  | none => return .exception 404 "Not Found"
  | some r =>
    if r.utilisateur ≠ user then return .json 403 "Action non autorisée."
    else annuler reservation

/-- `ReservationsController::delete`, for the account `user`. -/
def delete (user reservation : ℕ) : Handler := do
  match ← read fun s : Tables => s.utilisateur.find user with
  | none => return .exception 401 "Unauthorized"
  | some _ => resoudreReservation user reservation

end ReservationsController

end Biblio
