import Biblio.Requete

/-!
# Tokens and the login bridges

The tokens of the API and the two routes of `SsoController` that carry a login between the two
front ends.  The payload of a token names its account by `Utilisateur::getUserIdentifier`, the
email at the time of issue; a token is accepted while it has not expired, and stands for the
account that `findOneBy(['email' => ..])` then returns, on the API as the provider of
`security.yaml` is configured and in `toSymfony` by the controller itself.

`Systeme` is the database, the clock and the tokens issued so far; `Evenement` lists what happens
to it: tokens are issued by `login_check` and `toAngular`, accounts change by the requests of
`Biblio.Requete`, time passes, and tokens are used.
-/

namespace Biblio

/-- The payload of a token, of which the bundle checks the signature. -/
structure Jeton where
  username : String
  exp : Instant
  deriving DecidableEq

/-- The time a token lives: the bundle's default, an hour. -/
def tokenTtl : Instant := 3600 * 1000000

/-- `JWTTokenManagerInterface::create`, for the account of a row. -/
def JWTTokenManager.create (user : UtilisateurRow) (now : Instant) : Jeton :=
  ⟨user.email, now + tokenTtl⟩

/-- `JWTEncoderInterface::decode`: the payload of a token that has not expired. -/
def JWTEncoder.decode (j : Jeton) (now : Instant) : Option Jeton :=
  if now ≤ j.exp then some j else none

/-- The account an API request with the token `j` is authenticated as. -/
def authentifierApi (s : Tables) (now : Instant) (j : Jeton) : Option UtilisateurRow :=
  (JWTEncoder.decode j now).bind fun payload => s.findByEmail payload.username

/-- `SsoController::toSymfony`: the account logged in, `none` standing for the redirection to the
login page. -/
def SsoController.toSymfony (s : Tables) (now : Instant) (j : Jeton) : Option UtilisateurRow :=
  match JWTEncoder.decode j now with
  | none => none
  | some payload =>
    if truthy (some payload.username) then s.findByEmail payload.username else none

/-- `SsoController::toAngular`, for the account `user` of the session: the token handed over. -/
def SsoController.toAngular (s : Tables) (now : Instant) (user : ℕ) : Option (ℕ × Jeton) :=
  (s.utilisateur.find user).map fun row => (row.id, JWTTokenManager.create row now)

/-- `login_check`, after the password was accepted for the account with this email. -/
def loginCheck (s : Tables) (now : Instant) (email : String) : Option (ℕ × Jeton) :=
  (s.findByEmail email).map fun row => (row.id, JWTTokenManager.create row now)

/-! ### Runs -/

/-- The database, the clock, and the tokens issued, each with the id of its account. -/
structure Systeme where
  tables : Tables
  horloge : Instant
  emis : List (ℕ × Jeton)

/-- What happens to the system. -/
inductive Evenement where
  | loginCheck (email : String)
  | toAngular (user : ℕ)
  | requete (r : Requete)
  | attendre (duree : ℕ)
  | appelApi (j : Jeton)
  | toSymfony (j : Jeton)

namespace Systeme

/-- The token an event issues, with the id of its account. -/
def emet (σ : Systeme) : Evenement → Option (ℕ × Jeton)
  | .loginCheck email => Biblio.loginCheck σ.tables σ.horloge email
  | .toAngular user => SsoController.toAngular σ.tables σ.horloge user
  | _ => none

/-- The tables after an event. -/
def tablesApres (services : Services) (σ : Systeme) : Evenement → Tables
  | .requete r => r.apres services σ.tables
  | _ => σ.tables

/-- One event.  The use of a token changes nothing by itself: the request it admits is an event of
its own. -/
def step (services : Services) (σ : Systeme) (e : Evenement) : Systeme where
  tables := σ.tablesApres services e
  horloge :=
    match e with
    | .attendre duree => σ.horloge + duree
    | _ => σ.horloge
  emis := (σ.emet e).toList ++ σ.emis

end Systeme

end Biblio
