import Biblio.Emprunt
import Biblio.Php
import Biblio.Store.Like
import Biblio.Text.JsonText

/-!
# Accounts

The entity `Utilisateur` with its roles and constraints, and the requests that write the table
`utilisateur`: `RegisterController::register`, `UserController::updateMe`,
`UtilisateurRepository::upgradePassword` and the pages of `UtilisateurCrudController`, with the
condition of its list.

Three things come from packages and are parameters, `Services`: the password hasher, the strict
email check and the URL check.  A hash depends on a random salt, which a request carries, and is
absent when the hasher rejects the password.  Of hashes and of strictly valid addresses it is used
that they do not end with a space, the only end of a value that a column can lose.

Of EasyAdmin the handlers use that NEW and EDIT bind every submitted field, the password and the
roles included, onto the entity before anything else of the controller runs, and refuse roles
that are not among the choices of `configureFields`.
-/

namespace Biblio

open Prog

/-- What the packages provide. -/
structure Services where
  /-- `UserPasswordHasherInterface::hashPassword`, with the salt it draws. -/
  hashPassword : String → ℕ → Option String
  /-- The `Email` constraint in strict mode. -/
  emailStrict : String → Bool
  /-- The `Url` constraint. -/
  urlValide : String → Bool
  hash_last : ∀ plain sel hash, hashPassword plain sel = some hash →
    hash.toList.getLast? ≠ some ' '
  email_last : ∀ email, emailStrict email = true → email.toList.getLast? ≠ some ' '

/-! ### Roles -/

/-- `Utilisateur::getRoles`: the PHP array, with its keys. -/
def getRoles (roles : List String) : List (ℕ × String) :=
  arrayUnique (roles ++ ["ROLE_USER"])

/-- `in_array($role, $roles)`. -/
def inArray (role : String) (roles : List (ℕ × String)) : Bool :=
  roles.any fun e => e.2 == role

/-- The `role_hierarchy` of `security.yaml`. -/
def roleHierarchy : String → List String
  | "ROLE_ADMIN" => ["ROLE_BIBLIO", "ROLE_USER"]
  | "ROLE_BIBLIO" => ["ROLE_USER"]
  | _ => []

/-- `Security::isGranted` for a role, for an account with the stored roles `roles`.  The hierarchy
lists the roles below each one completely, so one level is its closure. -/
def isGranted (roles : List String) (role : String) : Bool :=
  (getRoles roles).any fun e => e.2 == role || (roleHierarchy e.2).contains role

/-- The column `roles`: what `json_encode` makes of the array, without flags. -/
def colonneRoles (roles : List String) : String :=
  String.ofList (JsonText.list (JsonText.escaped ⟨false, false⟩) roles)

/-! ### Constraints of the entity -/

/-- `\s` of a regular expression. -/
def estEspace (c : Char) : Bool :=
  c == ' ' || c == '\t' || c == '\n' || c == '\r' || c.toNat == 11 || c.toNat == 12

/-- `\s?`: at most one blank is consumed; a digit follows, so the greedy choice is the only one. -/
def sauterEspace : List Char → List Char
  | [] => []
  | c :: cs => if estEspace c then cs else c :: cs

/-- `(\s?\d{2}){n}$`; the `$` also matches before a final line feed. -/
def telGroupes : ℕ → List Char → Bool
  | 0, cs => cs == [] || cs == ['\n']
  | n + 1, cs =>
    match sauterEspace cs with
    | a :: b :: rest => a.isDigit && b.isDigit && telGroupes n rest
    | _ => false

/-- `\s?[1-9](\s?\d{2}){4}$`. -/
def telSuite (cs : List Char) : Bool :=
  match sauterEspace cs with
  | c :: rest => c.isDigit && c != '0' && telGroupes 4 rest
  | [] => false

/-- The pattern of `numTel`: `^(\+33|0)\s?[1-9](\s?\d{2}){4}$`. -/
def telValide (numTel : String) : Bool :=
  match numTel.toList with
  | '+' :: '3' :: '3' :: rest => telSuite rest
  | '0' :: rest => telSuite rest
  | _ => false

/-- The constraints `NotBlank` and `Length(min: 2, max: 100)` on a name. -/
def violationsNom (path obligatoire trop_court : String) (v : Option String) : List Violation :=
  let t := v.getD ""
  if t = "" then [⟨obligatoire, path⟩]
  else if t.length < 2 then [⟨trop_court, path⟩]
  else if t.length > 100 then
    [⟨"This value is too long. It should have 100 characters or less.", path⟩]
  else []

/-- The constraint attributes of `Utilisateur`, on the day `today`. -/
def Utilisateur.violations (services : Services) (today : Date) (u : Utilisateur) :
    List Violation :=
  (if u.email.getD "" = "" then [⟨"L'adresse email est obligatoire.", "email"⟩]
    else if services.emailStrict (u.email.getD "") then []
    else [⟨"L'email \"" ++ u.email.getD "" ++
      "\" n'est pas valide. Il doit être au format nom@domaine.com.", "email"⟩])
  ++ violationsNom "nom" "Le nom est obligatoire."
    "Le nom doit contenir au moins 2 caractères." u.nom
  ++ violationsNom "prenom" "Le prénom est obligatoire."
    "Le prénom doit contenir au moins 2 caractères." u.prenom
  ++ (if u.dateAdhesion = none then [⟨"La date d'adhésion doit être définie.", "dateAdhesion"⟩]
    else [])
  ++ (match u.dateNaiss with
    | some d => if d < today then [] else
      [⟨"La date de naissance doit être dans le passé.", "dateNaiss"⟩]
    | none => [])
  ++ (match u.numTel with
    | some t => if t = "" ∨ telValide t then [] else
      [⟨"Le format du numéro de téléphone est invalide (ex: 0612345678, +33612345678 ou +33 6 12 34 56 78).",
        "numTel"⟩]
    | none => [])

/-! ### `RegisterController` -/

/-- The entity `register` builds; no other property is set. -/
def RegisterController.nouveau (email nom prenom password : String) : Utilisateur where
  id := none
  email := some email
  roles := []
  password := some password
  nom := some nom
  prenom := some prenom
  dateAdhesion := none
  dateNaiss := none
  adressePostale := none
  numTel := none
  photo := none

/-- `RegisterController::register`. -/
def RegisterController.register (services : Services) (data : Json) (sel : ℕ) : Handler :=
  if (data.get "email").empty || (data.get "password").empty || (data.get "nom").empty
      || (data.get "prenom").empty then
    return .json 400 "Champs obligatoires manquants (email, password, nom, prenom)"
  else
    match (data.get "email").toStringParam, (data.get "nom").toStringParam,
        (data.get "prenom").toStringParam, (data.get "password").toStringParam with
    | some email, some nom, some prenom, some plain =>
      match services.hashPassword plain sel with
      | none => return .exception 500 "Invalid password."
      -- nothing is validated: what the columns and keys refuse shows at the flush
      | some hashedPassword => do
        let committed ← save [.insertUtilisateur (nouveau email nom prenom hashedPassword)]
        return if committed then .json 201 "Utilisateur créé avec succès" else apresFlush false
    | _, _, _, _ => return .exception 500 "Argument must be of type string"

/-! ### `UserController` -/

namespace UserController

/-- The new value of an optional property of `updateMe`: kept unless the key is set. -/
def champ (data : Json) (key : String) (ancien : Option String) : Option (Option String) :=
  if (data.get key).isset then ((data.get key).toStringParam).map some else some ancien

/-- `updateMe` once the email is decided: the other two fields, and the flush. -/
def updateMeSuite (row : UtilisateurRow) (data : Json) (email : String) : Handler :=
  match champ data "adressePostale" row.adressePostale, champ data "numTel" row.numTel with
  | some adressePostale, some numTel => do
    let u := { row.toEntity with
      email := some email, adressePostale := adressePostale, numTel := numTel }
    let committed ← save [.updateUtilisateur row.id row u]
    return if committed then .jsonUtilisateur u else apresFlush false
  | _, _ => return .exception 500 "Argument must be of type ?string"

/-- `UserController::updateMe`, for the account `user`. -/
def updateMe (user : ℕ) (data : Json) : Handler := do
  match ← read fun s : Tables => s.utilisateur.find user with
  | none => return .json 401 "Non authentifié."
  | some row =>
    match data with
    | .null => return .json 400 "Données JSON invalides."
    | data =>
      if (data.get "email").isset && !(data.get "email").identical row.email then do
        -- the database compares emails by its collation, PHP by `!==`
        let existingUser ← read fun s : Tables =>
          s.utilisateur.rows.find? fun r => (data.get "email").criteria.any (s.memeEmail r.email)
        if existingUser.isSome then
          return .json 409 "Cet email est déjà utilisé par un autre compte."
        else
          match (data.get "email").toStringParam with
          | none => return .exception 500 "Argument must be of type string"
          | some email => updateMeSuite row data email
      else updateMeSuite row data row.email

end UserController

/-! ### `UtilisateurRepository` -/

/-- `UtilisateurRepository::upgradePassword`. -/
def UtilisateurRepository.upgradePassword (user : ℕ) (newHashedPassword : String) : Handler := do
  match ← read fun s : Tables => s.utilisateur.find user with
  | none => return .exception 401 "Unauthorized"
  | some row => do
    let committed ← save
      [.updateUtilisateur user row { row.toEntity with password := some newHashedPassword }]
    return apresFlush committed

/-! ### `UtilisateurCrudController` -/

namespace UtilisateurCrudController

/-- The values of the account form; a blank password field is null, never the empty string. -/
structure Form where
  email : Option String
  nom : Option String
  prenom : Option String
  dateAdhesion : Option Datetime
  dateNaiss : Option Date
  numTel : Option String
  adressePostale : Option String
  password : Option String
  roles : List String
  password_ne : password ≠ some ""
  deriving DecidableEq

/-- The roles `configureFields` offers to the person logged in. -/
def rolesChoices (acteur : List String) : List String :=
  "ROLE_USER" :: if isGranted acteur "ROLE_ADMIN" then ["ROLE_BIBLIO", "ROLE_ADMIN"] else []

/-- `UtilisateurCrudController::createIndexQueryBuilder`: the condition of the query of the page
INDEX, where `parent` is that of EasyAdmin, for its search and filters.  The column has the binary
collation, so `LIKE` compares characters as they are. -/
def createIndexQueryBuilder (parent : UtilisateurRow → Bool) (acteur : List String)
    (entity : UtilisateurRow) : Bool :=
  if !isGranted acteur "ROLE_ADMIN" then
    parent entity && !Like.like id (colonneRoles entity.roles) "%\"ROLE_ADMIN\"%"
      && !Like.like id (colonneRoles entity.roles) "%\"ROLE_BIBLIO\"%"
  else parent entity

/-- Bind the submitted fields onto an entity. -/
def Form.bind (form : Form) (u : Utilisateur) : Utilisateur :=
  { u with
    email := form.email
    nom := form.nom
    prenom := form.prenom
    dateAdhesion := form.dateAdhesion
    dateNaiss := form.dateNaiss
    numTel := form.numTel
    adressePostale := form.adressePostale
    password := form.password
    roles := form.roles }

/-- What the first setter of EDIT asks for that is given null. -/
def Form.typeAttendu (form : Form) : String := if form.email = none then "string" else "DateTime"

/-- `new Utilisateur()`. -/
def vide : Utilisateur := ⟨none, none, [], none, none, none, none, none, none, none, none⟩

/-- `UtilisateurCrudController::persistEntity`. -/
def persistEntity (services : Services) (entityInstance : Utilisateur) (sel : ℕ) : Handler :=
  if truthy entityInstance.password then
    match services.hashPassword (entityInstance.password.getD "") sel with
    | none => return .exception 500 "Invalid password."
    | some hash => do
      let committed ← save [.insertUtilisateur { entityInstance with password := some hash }]
      return apresFlush committed
  else do
    -- no password is set here: the entity is stored as submitted
    let committed ← save [.insertUtilisateur entityInstance]
    return apresFlush committed

/-- `UtilisateurCrudController::updateEntity`, for the entity hydrated from `original`. -/
def updateEntity (services : Services) (acteur : List String) (original : UtilisateurRow)
    (entityInstance : Utilisateur) (sel : ℕ) : Handler :=
  -- the roles of the entity the form was bound to: the submitted ones, not those stored
  let targetRoles := getRoles entityInstance.roles
  if !isGranted acteur "ROLE_ADMIN"
      && (inArray "ROLE_ADMIN" targetRoles || inArray "ROLE_BIBLIO" targetRoles) then
    return .exception 403 "Vous n'avez pas les droits pour modifier cet utilisateur."
  else if truthy entityInstance.password then
    match services.hashPassword (entityInstance.password.getD "") sel with
    | none => return .exception 500 "Invalid password."
    | some hash => do
      let committed ← save
        [.updateUtilisateur original.id original { entityInstance with password := some hash }]
      return apresFlush committed
  else do
    -- a field left blank keeps the stored password
    let committed ← save [.updateUtilisateur original.id original
      { entityInstance with password := some original.password }]
    return apresFlush committed

/-- The page NEW, submitted by a person with the stored roles `acteur`.  `setDateAdhesion` takes no
null. -/
def new (services : Services) (acteur : List String) (form : Form) (sel : ℕ) (today : Date) :
    Handler :=
  if !isGranted acteur "ROLE_BIBLIO" then return .exception 403 "Access Denied."
  else if form.dateAdhesion = none then return argumentNul "DateTime"
  else if !form.roles.all (rolesChoices acteur).contains then
    return .formulaireInvalide [choixInvalide "roles"]
  else
    let u := form.bind vide
    if u.violations services today = [] then persistEntity services u sel
    else return .formulaireInvalide (u.violations services today)

/-- The page EDIT of the account `entityId`.  `setEmail` and `setDateAdhesion` take no null. -/
def edit (services : Services) (acteur : List String) (entityId : ℕ) (form : Form) (sel : ℕ)
    (today : Date) : Handler :=
  if !isGranted acteur "ROLE_BIBLIO" then return .exception 403 "Access Denied."
  else do
    match ← read fun s : Tables => s.utilisateur.find entityId with
    | none => return .exception 404 "Not Found"
    | some row =>
      if form.email = none ∨ form.dateAdhesion = none then
        return argumentNul form.typeAttendu
      else if !form.roles.all (rolesChoices acteur).contains then
        return .formulaireInvalide [choixInvalide "roles"]
      else
        let u := form.bind row.toEntity
        if u.violations services today = [] then updateEntity services acteur row u sel
        else return .formulaireInvalide (u.violations services today)

/-- The action DELETE of the account `entityId`: `deleteEntity` refuses anyone but an
administrator.  The account's reservations go with it. -/
def delete (acteur : List String) (entityId : ℕ) : Handler :=
  if !isGranted acteur "ROLE_ADMIN" then
    return .exception 403 "Seul un administrateur peut supprimer un compte."
  else do
    match ← read fun s : Tables => s.utilisateur.find entityId with
    | none => return .exception 404 "Not Found"
    | some _ => do
      let reservations ← read fun s : Tables =>
        s.reservations.select fun r => r.utilisateur == entityId
      let committed ← save
        (reservations.map (fun r => .deleteReservations r.id) ++ [.deleteUtilisateur entityId])
      return apresFlush committed

end UtilisateurCrudController

end Biblio
