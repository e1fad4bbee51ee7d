import Mathlib.Data.List.Basic

/-!
# The session of the Angular client

`AuthService`, the constructor of `App`, `authInterceptor` and `authGuard`, which share one
session: the token in `localStorage`, the three signals and the requests in flight.  A request is
tagged with the token the interceptor attached when it was sent; an answer goes first through the
`tap` of the interceptor and then to the subscriber, whatever has become of the session since.

Two things are parameters.  `compteDe` gives the account that the API takes a token for, whose
email and roles `/user/me` answers, and `none` for a token it refuses.  `payloadRoles` gives the
roles that `handleLoginSuccess` reads in the payload of a token, and `none` where reading it
throws or finds no roles.  Navigations (`router.navigate`, `window.location.href`,
`history.replaceState`) are no part of the session: the page they lead to is another
`AuthService.constructor`.
-/

namespace Biblio

/-- A token of the client: a string that is true in a condition. -/
abbrev Token := {t : String // t ≠ ""}

/-- What `/user/me` answers, as far as the client reads it. -/
structure Compte where
  email : String
  roles : List String
  deriving DecidableEq

/-- The calls to the API: that of `loadUserInfo`, `login`, and those of the components.  Where the
subscriber of a component calls `logout`, that is a step of its own. -/
inductive AppelHttp where
  | loadUserInfo
  | login
  | composant
  deriving DecidableEq

/-- A request in flight, with the token of its `Authorization` header. -/
structure Envoi where
  appel : AppelHttp
  token : Option Token
  deriving DecidableEq

/-- `localStorage` and the signals of `AuthService`, with the requests in flight. -/
structure Session where
  jwtToken : Option Token
  isLoggedIn : Bool
  userEmail : String
  userRoles : List String
  enVol : List Envoi
  deriving DecidableEq

/-- `authInterceptor`, on the way out: the request carries the stored token. -/
def authInterceptor.envoyer (s : Session) (a : AppelHttp) : Session :=
  { s with enVol := s.enVol ++ [⟨a, s.jwtToken⟩] }

/-- `authInterceptor`, on the way back: the `tap` on an error. -/
def authInterceptor.error (s : Session) (a : AppelHttp) (status : ℕ) : Session :=
  if status = 401 ∧ a ≠ .login then { s with jwtToken := none } else s

namespace AuthService

def localLogout (s : Session) : Session :=
  { s with jwtToken := none, isLoggedIn := false, userEmail := "", userRoles := [] }

/-- `logout`, up to the navigation it ends with. -/
def logout (s : Session) : Session := localLogout s

/-- `login` sends its request; what its subscriber does is `handleLoginSuccess`. -/
def login (s : Session) : Session := authInterceptor.envoyer s .login

/-- `loadUserInfo` sends its request; `loadUserInfo.next` and `loadUserInfo.error` are its
subscriber. -/
def loadUserInfo (s : Session) : Session := authInterceptor.envoyer s .loadUserInfo

def loadUserInfo.next (s : Session) (user : Compte) : Session :=
  { s with userEmail := user.email, userRoles := user.roles }

def loadUserInfo.error (s : Session) : Session := logout s

/-- The constructor, once a page: the signals start anew, the requests of the page before are
gone and `localStorage` is as it was left. -/
def constructor (jwtToken : Option Token) : Session :=
  match jwtToken with
  | some t => loadUserInfo ⟨some t, true, "", [], []⟩
  | none => ⟨none, false, "", [], []⟩

def handleLoginSuccess (payloadRoles : Token → Option (List String)) (s : Session) (t : Token) :
    Session :=
  let s := { s with jwtToken := some t, isLoggedIn := true }
  match payloadRoles t with
  | some roles => loadUserInfo { s with userRoles := roles }
  | none => loadUserInfo s

end AuthService

/-- The constructor of `App`, for the parameters `token` and `action` of the url.  An empty
`token` is false in the condition, as an absent one. -/
def App.constructor (payloadRoles : Token → Option (List String)) (s : Session)
    (ssoToken : Option Token) (action : Option String) : Session :=
  match ssoToken with
  | some t => AuthService.handleLoginSuccess payloadRoles s t
  | none => if action = some "logout" then AuthService.localLogout s else s

/-- `authGuard`: whether the navigation to a guarded route goes on. -/
def authGuard (s : Session) : Bool := s.isLoggedIn

namespace Session

/-- The session without the request that is being answered. -/
def recu (s : Session) (i : ℕ) : Session := { s with enVol := s.enVol.eraseIdx i }

/-- A success arrives for the `i`-th request in flight.  A token the API refuses gets none from
`/user/me`; the subscriber of `login` calls `handleLoginSuccess`, which is a step of its own. -/
def succes (compteDe : Token → Option Compte) (s : Session) (i : ℕ) : Session :=
  match s.enVol[i]? with
  | some ⟨.loadUserInfo, token⟩ =>
    match token.bind compteDe with
    | some user => AuthService.loadUserInfo.next (s.recu i) user
    | none => s
  | some ⟨.login, _⟩ | some ⟨.composant, _⟩ => s.recu i
  | none => s

/-- An error arrives for the `i`-th request in flight: the interceptor, then the subscriber. -/
def erreur (s : Session) (i : ℕ) (status : ℕ) : Session :=
  match s.enVol[i]? with
  | some ⟨.loadUserInfo, _⟩ =>
    AuthService.loadUserInfo.error (authInterceptor.error (s.recu i) .loadUserInfo status)
  | some ⟨.login, _⟩ => authInterceptor.error (s.recu i) .login status
  | some ⟨.composant, _⟩ => authInterceptor.error (s.recu i) .composant status
  | none => s

end Session

/-- What happens to the client. -/
inductive Pas where
  | page
  | app (ssoToken : Option Token) (action : Option String)
  | handleLoginSuccess (t : Token)
  | localLogout
  | logout
  | login
  | composant
  | succes (i : ℕ)
  | erreur (i : ℕ) (status : ℕ)
  deriving DecidableEq

/-- One step of the client. -/
def Session.step (compteDe : Token → Option Compte) (payloadRoles : Token → Option (List String))
    (s : Session) : Pas → Session
  | .page => AuthService.constructor s.jwtToken
  | .app ssoToken action => App.constructor payloadRoles s ssoToken action
  | .handleLoginSuccess t => AuthService.handleLoginSuccess payloadRoles s t
  | .localLogout => AuthService.localLogout s
  | .logout => AuthService.logout s
  | .login => AuthService.login s
  | .composant => authInterceptor.envoyer s .composant
  | .succes i => s.succes compteDe i
  | .erreur i status => s.erreur i status

end Biblio
