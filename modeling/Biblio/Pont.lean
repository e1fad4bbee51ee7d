import Biblio.Jeton
import Biblio.Sso

/-!
# The bridge between the two front ends

One browser holds two logins: the token that the Angular client keeps in `localStorage`, and the
session of the firewall `main`, which serves the pages of Symfony, with its remember-me cookie.
`Pont` is that browser with the database and the clock, and `Navigation` lists what happens to it.
A navigation is followed through all its redirections, up to the page it ends on: a login in one
front end goes through `SsoController::toSymfony` or `SsoController::toAngular` to the other, and a
logout through `/logout` and `SsoController::logoutRedirect` to the constructor of `App`.

Of the packages the model uses the following.  The JWT bundle writes a token that it reads back, and
that PHP takes for true (`Jwt`).  Symfony keeps the user of a session as `Utilisateur::__serialize`
leaves it, loads it again by its id for each request, and drops it, with the remember-me cookie, if
its identifier, its password or its roles have changed.  Without a user in the session, it takes the
one of the cookie, which is signed with his identifier and his password, and renews the cookie; it
removes one that is not valid.  `Security::login`, called without a remember-me badge, leaves the
cookie alone; a login by the form replaces or removes it; a logout removes it.  A page that a
visitor without login asks for, or one that a user of the cookie has no right to, is kept in the
session as the target of the login, until the session ends.
-/

namespace Biblio

/-- The JWT bundle: the text of the token of an account, and the payload of a text whose signature
is right. -/
structure Jwt where
  texte : UtilisateurRow → Instant → Token
  lire : Token → Option Jeton
  lire_texte : ∀ row now, lire (texte row now) = some (JWTTokenManager.create row now)
  truthy_texte : ∀ row now, truthy (some (texte row now).1) = true

/-- The remember-me cookie: the identifier and the password it was signed with, and its end. -/
structure Souvenir where
  identifiant : String
  password : String
  expire : Instant
  deriving DecidableEq

/-- The addresses that ask for a login: `/admin` is that of the dashboard, the others are those of
the CRUD controllers, which all ask for `ROLE_BIBLIO`, and then for the permission of their action.
What an action does to the database is a request of its own. -/
inductive Adresse where
  | admin
  | crud (path permission : String)
  deriving DecidableEq

/-- The pages a navigation ends on. -/
inductive Page where
  /-- The Angular client. -/
  | front
  /-- `DashboardController::index`. -/
  | tableauDeBord
  /-- A page of a CRUD controller. -/
  | crud (path : String)
  /-- `SecurityController::login`. -/
  | connexion
  /-- The answer 403. -/
  | refus
  /-- The dump of `toSymfony` on an exception. -/
  | erreurSso
  deriving DecidableEq

/-- A browser, the database and the clock.  `parSouvenir` says that the user of the session is there
by the remember-me cookie, and `targetPath` is the page the session keeps for after the login. -/
structure Pont where
  tables : Tables
  horloge : Instant
  client : Session
  session : Option UtilisateurRow
  parSouvenir : Bool
  targetPath : Option Adresse
  souvenir : Option Souvenir
  page : Page

/-- `Utilisateur::__serialize`: the user as the session keeps it. -/
def serialize (crc32c : String → String) (u : UtilisateurRow) : UtilisateurRow :=
  { u with password := crc32c u.password }

/-- The lifetime of the remember-me cookie, from `security.yaml`. -/
def souvenirTtl : Instant := 604800 * 1000000

namespace Pont

variable (crc32c : String → String) (jwt : Jwt)

/-! ### The firewall `main` -/

/-- The roles of a refreshed user are those of the session: as many, and the same. -/
def memesRoles (roles roles' : List (ℕ × String)) : Bool :=
  roles.length == roles'.length && (roles.filter fun e => inArray e.2 roles').length == roles.length

/-- The user of a session, loaded again; `none` if he has been deleted or has changed. -/
def refreshUser (s : Tables) (u : UtilisateurRow) : Option UtilisateurRow :=
  match s.utilisateur.find u.id with
  | none => none
  | some row =>
    if row.email = u.email ∧ crc32c row.password = u.password ∧
        memesRoles (getRoles row.roles) (getRoles u.roles) then some row
    else none

/-- The user of a remember-me cookie. -/
def rappeler (s : Tables) (now : Instant) (c : Souvenir) : Option UtilisateurRow :=
  if now ≤ c.expire then
    (s.findByEmail c.identifiant).filter fun row =>
      row.email == c.identifiant && row.password == c.password
  else none

/-- The cookie for an account. -/
def creerSouvenir (row : UtilisateurRow) (now : Instant) : Souvenir :=
  ⟨row.email, row.password, now + souvenirTtl⟩

/-- The account of a request to the firewall `main`: that of the session, or else of the cookie. -/
def utilisateur (s : Tables) (now : Instant) (session : Option UtilisateurRow)
    (souvenir : Option Souvenir) : Option UtilisateurRow :=
  match session with
  | some u => refreshUser crc32c s u
  | none => souvenir.bind (rappeler s now)

/-- The account that a request of the browser to the firewall `main` is made as. -/
def getUser (p : Pont) : Option UtilisateurRow :=
  utilisateur crc32c p.tables p.horloge p.session p.souvenir

/-- A request to the firewall `main`: the session holds the user it is made as. -/
def authentifier (p : Pont) : Pont :=
  let user := getUser crc32c p
  match p.session with
  | some _ =>
    { p with
      session := user.map (serialize crc32c)
      souvenir := if user.isSome then p.souvenir else none }
  | none =>
    { p with
      session := user.map (serialize crc32c)
      parSouvenir := user.isSome
      souvenir := user.map fun row => creerSouvenir row p.horloge }

/-- `Security::login`, and the login of the firewall itself. -/
def login (p : Pont) (row : UtilisateurRow) : Pont :=
  { authentifier crc32c p with session := some (serialize crc32c row), parSouvenir := false }

/-! ### The pages -/

/-- The Angular client is loaded, with the parameters of its url. -/
def arriverFront (p : Pont) (ssoToken : Option Token) (action : Option String) : Pont :=
  { p with
    client := App.constructor AuthService.rolesDuPayload (AuthService.constructor p.client.jwtToken)
      ssoToken action
    page := .front }

/-- `SecurityController::login`; the page names the user. -/
def connexion (p : Pont) : Pont := { authentifier crc32c p with page := .connexion }

/-- `SsoController::toAngular`. -/
def toAngular (p : Pont) : Pont :=
  match getUser crc32c p with
  | some row => (authentifier crc32c p).arriverFront (some (jwt.texte row p.horloge)) none
  | none => (authentifier crc32c p).arriverFront none none

/-- The entry point of the firewall, for a page that is kept as the target. -/
def startAuthentication (p : Pont) (a : Adresse) : Pont :=
  connexion crc32c { authentifier crc32c p with targetPath := some a }

/-- A page below `/admin`.  The dashboard sends those who do not work at the library to the public
site, and the CRUD controllers refuse them, or send them to the login form if they are there by the
cookie.  An action without its permission is refused in any case, by EasyAdmin. -/
def demander (p : Pont) (a : Adresse) : Pont :=
  match getUser crc32c p with
  | none => startAuthentication crc32c p a
  | some row =>
    let p := authentifier crc32c p
    match a with
    | .admin =>
      if !isGranted row.roles "ROLE_BIBLIO" then toAngular crc32c jwt p
      else { p with page := .tableauDeBord }
    | .crud path permission =>
      if !isGranted row.roles "ROLE_BIBLIO" then
        if p.parSouvenir then startAuthentication crc32c p a else { p with page := .refus }
      else if isGranted row.roles permission then { p with page := .crud path }
      else { p with page := .refus }

/-- `SsoController::toSymfony`, for the token of the url. -/
def toSymfony (p : Pont) (token : Token) : Pont :=
  if truthy (some token.1) then
    match (jwt.lire token).bind fun j => JWTEncoder.decode j p.horloge with
    | none => { p with page := .erreurSso }
    | some payload =>
      if truthy (some payload.username) then
        match p.tables.findByEmail payload.username with
        | some user =>
          if isGranted user.roles "ROLE_BIBLIO" then
            demander crc32c jwt (login crc32c p user) .admin
          else (login crc32c p user).arriverFront none none
        | none => connexion crc32c p
      else connexion crc32c p
  else connexion crc32c p

/-- `/logout`, and `SsoController::logoutRedirect`. -/
def deconnexion (p : Pont) : Pont :=
  { p with
    session := none, parSouvenir := false, targetPath := none, souvenir := none }.arriverFront
      none (some "logout")

/-- `AuthService::logout`, with the navigation it ends with. -/
def logout (p : Pont) : Pont := deconnexion { p with client := AuthService.logout p.client }

/-! ### Logins -/

/-- `Login::onSubmit`, for an email with its password: the answer of `login_check`, and the bridge
to Symfony. -/
def onSubmit (p : Pont) (email : String) : Pont :=
  match p.tables.findByEmail email with
  | some row =>
    let token := jwt.texte row p.horloge
    toSymfony crc32c jwt
      { p with
        client := AuthService.handleLoginSuccess AuthService.rolesDuPayload p.client token }
      token
  | none => p

/-- `App::goToAdmin`. -/
def goToAdmin (p : Pont) : Pont :=
  match p.client.jwtToken with
  | some token => toSymfony crc32c jwt p token
  | none => p

/-- The form of the login page, for an email with its password, or for an email that is not
known: `AdminAuthenticator::onAuthenticationSuccess` goes to the target that the session keeps, and
keeps it. -/
def onAuthenticationSuccess (p : Pont) (email : String) (rememberMe : Bool) : Pont :=
  match p.tables.findByEmail email with
  | some row =>
    demander crc32c jwt
      { login crc32c p row with
        souvenir := if rememberMe then some (creerSouvenir row p.horloge) else none }
      (p.targetPath.getD .admin)
  | none => connexion crc32c { p with souvenir := none }

/-! ### Runs -/

/-- The account that the API takes the requests of the client for. -/
def compteApi (p : Pont) : Option UtilisateurRow :=
  (p.client.jwtToken.bind jwt.lire).bind (authentifierApi p.tables p.horloge)

/-- What `/user/me` answers for a token. -/
def compteDe (p : Pont) (token : Token) : Option Compte :=
  ((jwt.lire token).bind (authentifierApi p.tables p.horloge)).map fun row =>
    ⟨row.email, (getRoles row.roles).map Prod.snd⟩

/-- An error arrives for the `i`-th request in flight; that of `loadUserInfo` ends with the
navigation of `logout`. -/
def erreur (p : Pont) (i status : ℕ) : Pont :=
  let p' := { p with client := p.client.erreur i status }
  match p.client.enVol[i]? with
  | some ⟨.loadUserInfo, _⟩ => deconnexion p'
  | _ => p'

end Pont

/-- What happens to the browser, the database and the clock. -/
inductive Navigation where
  /-- The client is loaded from its own address, or by a link with a token. -/
  | visiterFront (token : Option Token)
  | visiterAdmin (a : Adresse)
  | onSubmit (email : String)
  | goToAdmin
  | logout
  /-- The link of the menu of the dashboard, to `sso_to_angular`. -/
  | retourAuSite
  /-- The link of the Symfony pages to `/logout`. -/
  | deconnexion
  | formulaire (email : String) (rememberMe : Bool)
  | composant
  | succes (i : ℕ)
  | erreur (i status : ℕ)
  | requete (r : Requete)
  | attendre (duree : ℕ)
  /-- The server forgets the session. -/
  | finDeSession

/-- What the Angular client does, as long as its page is shown. -/
def Pont.surFront (p suite : Pont) : Pont := if p.page = .front then suite else p

/-- One step. -/
def Pont.step (services : Services) (crc32c : String → String) (jwt : Jwt) (p : Pont) :
    Navigation → Pont
  | .visiterFront token => p.arriverFront token none
  | .visiterAdmin a => p.demander crc32c jwt a
  | .onSubmit email => p.surFront (p.onSubmit crc32c jwt email)
  | .goToAdmin => p.surFront (p.goToAdmin crc32c jwt)
  | .logout => p.surFront p.logout
  | .retourAuSite => p.toAngular crc32c jwt
  | .deconnexion => p.deconnexion
  | .formulaire email rememberMe => p.onAuthenticationSuccess crc32c jwt email rememberMe
  | .composant => p.surFront { p with client := authInterceptor.envoyer p.client .composant }
  | .succes i => p.surFront { p with client := p.client.succes (p.compteDe jwt) i }
  | .erreur i status => p.surFront (p.erreur i status)
  | .requete r => { p with tables := r.apres services p.tables }
  | .attendre duree => { p with horloge := p.horloge + duree }
  | .finDeSession => { p with session := none, parSouvenir := false, targetPath := none }

end Biblio
