import Biblio.Utilisateur
import Mathlib.Logic.Relation

/-!
# Roles on both sides

`GET /api/user/me` serializes the account, whose `roles` are what `getRoles` returns: a PHP array
with the keys `array_unique` has left.  The client stores the decoded value in the signal
`userRoles` and asks it with `includes`, a method of arrays that other objects do not have: on them
the call is a `TypeError`, here `none`.

`Accorde` is what the back end grants: every role that can be reached from those of the account in
the `role_hierarchy`.
-/

namespace Biblio

/-! ### The back end -/

/-- A role of the account, or one below it in the hierarchy, at any distance. -/
def Accorde (roles : List String) (role : String) : Prop :=
  ∃ e ∈ getRoles roles, Relation.ReflTransGen (fun a b => b ∈ roleHierarchy a) e.2 role

/-- The JSON text of a PHP array of strings, as it is decoded. -/
inductive RolesJson where
  | tableau (elems : List String)
  | objet (fields : List (ℕ × String))
  deriving DecidableEq

/-- `json_encode`: a list if the keys are `0, 1, …, n - 1` in this order, else an object. -/
def jsonEncode (a : List (ℕ × String)) : RolesJson :=
  if a.map Prod.fst = List.range a.length then .tableau (a.map Prod.snd) else .objet a

/-- What the client reads of the answer of `/user/me`. -/
structure UserMe where
  email : String
  roles : RolesJson
  deriving DecidableEq

/-- `UserController::me`, for the account `user`. -/
def UserController.me (user : Utilisateur) : UserMe where
  email := user.email.getD ""
  roles := jsonEncode (getRoles user.roles)

/-- `Utilisateur::setRoles`. -/
def Utilisateur.setRoles (user : Utilisateur) (roles : List String) : Utilisateur :=
  { user with roles := roles }

/-! ### The client -/

/-- `value.includes(role)`. -/
def RolesJson.includes (role : String) : RolesJson → Option Bool
  | tableau elems => some (elems.contains role)
  | objet _ => none

/-- The signals that `loadUserInfo` sets. -/
structure Signaux where
  userEmail : String
  userRoles : RolesJson
  deriving DecidableEq

namespace Signaux

/-- The subscriber of `loadUserInfo`. -/
def loadUserInfo (s : Signaux) (user : UserMe) : Signaux :=
  { s with userEmail := user.email, userRoles := user.roles }

def isAdmin (s : Signaux) : Option Bool := s.userRoles.includes "ROLE_ADMIN"

def isBiblio (s : Signaux) : Option Bool :=
  match s.userRoles.includes "ROLE_BIBLIO" with
  | some true => some true
  | some false => s.isAdmin
  | none => none

end Signaux

/-- The client and the back end agree on the two roles, for an account given the roles `roles`. -/
def Concorde (s : Signaux) (user : Utilisateur) (roles : List String) : Prop :=
  let s' := s.loadUserInfo (UserController.me (user.setRoles roles))
  (s'.isAdmin = some true ↔ Accorde roles "ROLE_ADMIN") ∧
    (s'.isBiblio = some true ↔ Accorde roles "ROLE_BIBLIO")

end Biblio
