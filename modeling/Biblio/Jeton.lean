import Biblio.Client
import Biblio.Text.Base64
import Biblio.Text.JsonText

/-!
# The text of a token

A token is three base64 texts with dots between them.  The second one is that of the payload, a JSON
object with the username and the roles, which the JWT library writes in UTF-8 with slashes and
characters beyond ASCII as they are.  The client reads it with `atob`, which makes a character of
each byte, and `JSON.parse`.

`AuthService.rolesDuPayload` is what `handleLoginSuccess` reads there: `none` where reading throws
or finds no roles, and also for roles that are no list of strings.  The client keeps such roles too,
which `Session` has no place for: a `Payload` has a list of roles, and what becomes of an account
with a role twice, whose roles are written as an object, is the subject of `Biblio.Roles`.
-/

namespace Biblio

/-- The payload of a token: an object with a username, the roles and any other fields, in any
order. -/
structure Payload where
  champs : List (String × JsonText.Datum)
  username : String
  roles : List String
  nodup : (champs.map Prod.fst).Nodup
  username_mem : ("username", .text username) ∈ champs
  roles_mem : ("roles", .texts roles) ∈ champs

namespace Payload

/-- The payload of `JWTTokenManagerInterface::create`. -/
def create (iat exp : ℤ) (username : String) (roles : List String) : Payload where
  champs := [("iat", .int iat), ("exp", .int exp), ("roles", .texts roles),
    ("username", .text username)]
  username := username
  roles := roles
  nodup := by
    show ["iat", "exp", "roles", "username"].Nodup
    decide
  username_mem := by simp
  roles_mem := by simp

/-- The bytes of its JSON text. -/
def octets (p : Payload) : List UInt8 :=
  (JsonText.object (JsonText.escaped ⟨true, true⟩) p.champs).flatMap String.utf8EncodeChar

end Payload

/-- The token with a payload; its header and its signature are any bytes. -/
def jeton (header : List UInt8) (payload : Payload) (signature : List UInt8) : Token :=
  ⟨String.ofList (Base64.encodeUrl header ++
      '.' :: (Base64.encodeUrl payload.octets ++ '.' :: Base64.encodeUrl signature)), by
    intro h
    have hlist := congrArg String.toList h
    rw [String.toList_ofList] at hlist
    simp at hlist⟩

/-- `JSON.parse(atob(token.split('.')[1])).roles`. -/
def AuthService.rolesDuPayload (t : Token) : Option (List String) := do
  -- `atob` gets the text of `undefined` where there is no second part
  let texte ← Base64.atob ((t.1.toList.splitOn '.')[1]?.getD "undefined".toList)
  let payload ← JsonText.parse texte
  let roles ← payload.get ("roles".toList.flatMap JsonText.units)
  roles.strings

end Biblio
