import Biblio.Pont
import Biblio.Store.Interleave

/-!
# Routes, firewalls and roles

What stands between a HTTP request and its controller.  The router gives the controller of a path
and a method; the firewall of the path says as whom the request is made; the first rule of
`access_control` whose path and methods fit, and then the `IsGranted` attribute of the controller,
say whether he may; and `Http.decider` is the outcome: a refusal, a controller that only reads, or
one of the requests of `Biblio.Requete`, with the account that makes it.

Of the packages the model uses the following.  The router takes the classes in the order of their
names, and a route replaces an earlier one of the same name.  A request with a `Bearer` token that
is not accepted is refused, also where nobody needs to be logged in.  A login whose password is
right ends with `UtilisateurRepository::upgradePassword` where the hasher asks for another hash.
EasyAdmin has the urls below `/admin`, and `RequeteHttp.page` is what it reads in the url and the
form.
-/

namespace Biblio

/-! ### Routes -/

inductive Methode where
  | get
  | head
  | post
  | put
  | patch
  | delete
  | options
  deriving DecidableEq

/-- A part of the path of a route: a fixed one, `{id}`, or a parameter that takes all the rest. -/
inductive Segment where
  | fixe (s : String)
  | id
  | reste
  deriving DecidableEq

/-- The methods of the controllers that have a route. -/
inductive Action where
  | angularIndex
  | auteurIndex
  | auteurShow
  | authLogin
  | authMe
  | categorieIndex
  | categorieShow
  | livreIndex
  | livreShow
  | register
  | reservationsCreate
  | reservationsIndex
  | reservationsDelete
  | getStats
  | mesEmprunts
  | mesReservations
  | userMe
  | updateMe
  | homeIndex
  | securityLogin
  | securityLogout
  | toSymfony
  | toAngular
  | logoutRedirect
  deriving DecidableEq

/-- A route; without methods it takes all. -/
structure Route where
  nom : String
  chemin : List Segment
  methodes : List Methode
  action : Action
  deriving DecidableEq

/-- `RouteCollection::addCollection`. -/
def addCollection (routes ajout : List Route) : List Route :=
  routes.filter (fun r => ajout.all fun a => a.nom != r.nom) ++ ajout

/-- The `Route` attributes of the controllers, class by class. -/
def classes : List (List Route) :=
  [ [⟨"app_angular", [.fixe "app", .reste], [], .angularIndex⟩],
    [⟨"api_auteurs", [.fixe "api", .fixe "auteurs"], [.get], .auteurIndex⟩,
      ⟨"api_auteurs_show", [.fixe "api", .fixe "auteurs", .id], [.get], .auteurShow⟩],
    [⟨"api_login_check", [.fixe "api", .fixe "login_check"], [.post], .authLogin⟩,
      ⟨"api_user_me", [.fixe "api", .fixe "user", .fixe "me"], [.get], .authMe⟩],
    [⟨"api_categories", [.fixe "api", .fixe "categories"], [.get], .categorieIndex⟩,
      ⟨"api_categories_show", [.fixe "api", .fixe "categories", .id], [.get], .categorieShow⟩],
    [⟨"api_livres", [.fixe "api", .fixe "livres"], [.get], .livreIndex⟩,
      ⟨"api_livres_show", [.fixe "api", .fixe "livres", .id], [.get], .livreShow⟩],
    [⟨"api_register", [.fixe "api", .fixe "register"], [.post], .register⟩],
    [⟨"api_reservation_create", [.fixe "api", .fixe "reservations", .id], [.post],
        .reservationsCreate⟩,
      ⟨"api_mes_reservations", [.fixe "api", .fixe "reservations"], [.get], .reservationsIndex⟩,
      ⟨"api_reservation_delete", [.fixe "api", .fixe "reservations", .id], [.delete],
        .reservationsDelete⟩],
    [⟨"api_admin_stats", [.fixe "api", .fixe "admin", .fixe "stats"], [.get], .getStats⟩],
    [⟨"api_mes_emprunts", [.fixe "api", .fixe "mes-emprunts"], [.get], .mesEmprunts⟩,
      ⟨"api_mes_reservations", [.fixe "api", .fixe "mes-reservations"], [.get], .mesReservations⟩],
    [⟨"api_user_me", [.fixe "api", .fixe "user", .fixe "me"], [.get], .userMe⟩,
      ⟨"api_user_me_update", [.fixe "api", .fixe "user", .fixe "me"], [.put], .updateMe⟩],
    [⟨"app_home", [.fixe ""], [], .homeIndex⟩],
    [⟨"app_login", [.fixe "login"], [], .securityLogin⟩,
      ⟨"app_logout", [.fixe "logout"], [], .securityLogout⟩],
    [⟨"sso_to_symfony", [.fixe "sso", .fixe "to-symfony"], [], .toSymfony⟩,
      ⟨"sso_to_angular", [.fixe "sso", .fixe "to-angular"], [], .toAngular⟩,
      ⟨"sso_logout_redirect", [.fixe "sso", .fixe "logout-redirect"], [], .logoutRedirect⟩] ]

/-- The routes of the application. -/
def routes : List Route := classes.foldl addCollection []

/-- The parts of a path, which starts with a slash. -/
def segments (path : String) : List String :=
  match path.toList with
  | '/' :: cs => (cs.splitOn '/').map String.ofList
  | _ => []

/-- The path of a route, with the parameter `id` it takes from a path that it matches. -/
def correspond : List Segment → List String → Option (Option String)
  | [], [] => some none
  | [.reste], _ => some none
  | .fixe s :: reste, t :: ts => if s = t then correspond reste ts else none
  | .id :: reste, t :: ts => if t = "" then none else (correspond reste ts).map fun _ => some t
  | _, _ => none

/-- Whether a route takes a method; a route for `GET` takes `HEAD` too. -/
def Route.accepte (r : Route) (m : Methode) : Bool :=
  r.methodes.isEmpty || r.methodes.contains m || (m == .head && r.methodes.contains .get)

/-- The first route of a path and a method, with its parameter; otherwise 405 or 404. -/
def trouverRoute (m : Methode) (parts : List String) : Except ℕ (Action × Option String) :=
  let trouvees := routes.filterMap fun r => (correspond r.chemin parts).map fun id => (r, id)
  match trouvees.find? fun e => e.1.accepte m with
  | some (r, id) => .ok (r.action, id)
  | none => .error (if trouvees.isEmpty then 404 else 405)

/-! ### The calls of the client -/

/-- The methods of `ApiService`, and those of `AuthService` that send a request. -/
inductive AppelClient where
  | getCategories
  | getLivres
  | getLivre (id : ℕ)
  | getMesEmprunts
  | getMesReservations
  | getAuteurs
  | getAuteur (id : ℕ)
  | reserveLivre (id : ℕ)
  | annulerReservation (id : ℕ)
  | getStats
  | getMe
  | updateProfile
  | login
  | loadUserInfo

namespace AppelClient

def methode : AppelClient → Methode
  | reserveLivre _ | login => .post
  | annulerReservation _ => .delete
  | updateProfile => .put
  | _ => .get

/-- The url, without the query: `environment.apiUrl` ends in `/api`. -/
def path : AppelClient → String
  | getCategories => "/api/categories"
  | getLivres => "/api/livres"
  | getLivre id => "/api/livres/" ++ toString id
  | getMesEmprunts => "/api/mes-emprunts"
  | getMesReservations => "/api/mes-reservations"
  | getAuteurs => "/api/auteurs"
  | getAuteur id => "/api/auteurs/" ++ toString id
  | reserveLivre id | annulerReservation id => "/api/reservations/" ++ toString id
  | getStats => "/api/admin/stats"
  | getMe | updateProfile | loadUserInfo => "/api/user/me"
  | login => "/api/login_check"

/-- The controller that a call is meant for. -/
def action : AppelClient → Action
  | getCategories => .categorieIndex
  | getLivres => .livreIndex
  | getLivre _ => .livreShow
  | getMesEmprunts => .mesEmprunts
  | getMesReservations => .mesReservations
  | getAuteurs => .auteurIndex
  | getAuteur _ => .auteurShow
  | reserveLivre _ => .reservationsCreate
  | annulerReservation _ => .reservationsDelete
  | getStats => .getStats
  | getMe | loadUserInfo => .userMe
  | updateProfile => .updateMe
  | login => .authLogin

/-- The row that a call names. -/
def id : AppelClient → Option ℕ
  | getLivre id | getAuteur id | reserveLivre id | annulerReservation id => some id
  | _ => none

end AppelClient

/-! ### `security.yaml` -/

inductive Firewall where
  | dev
  | login
  | api
  | main
  deriving DecidableEq

/-- A pattern `^..` without special characters. -/
def debute (debut path : String) : Bool := debut.toList.isPrefixOf path.toList

/-- The firewall of a path: the first one whose pattern fits. -/
def firewall (path : String) : Firewall :=
  if ["/_profiler/", "/_wdt/", "/assets/", "/build/"].any (debute · path) then .dev
  else if debute "/api/login" path then .login
  else if debute "/api" path then .api
  else .main

/-- What a rule of `access_control` asks for. -/
inductive Attribut where
  | publicAccess
  | isAuthenticatedFully
  | role (nom : String)
  deriving DecidableEq

/-- A rule of `access_control`; without methods it is for all. -/
structure AccessRule where
  path : String
  roles : Attribut
  methods : List Methode
  deriving DecidableEq

def accessControl : List AccessRule :=
  [ ⟨"/api/login", .publicAccess, []⟩,
    ⟨"/api/register", .publicAccess, []⟩,
    ⟨"/api/user/me", .isAuthenticatedFully, []⟩,
    ⟨"/api", .publicAccess, [.get]⟩,
    ⟨"/api", .isAuthenticatedFully, []⟩,
    ⟨"/admin", .role "ROLE_USER", []⟩ ]

/-- What the rules ask for: that of the first one that fits. -/
def attributDe (m : Methode) (path : String) : Attribut :=
  let convient := fun a : AccessRule =>
    debute a.path path && (a.methods.isEmpty || a.methods.contains m)
  match accessControl.find? convient with
  | some rule => rule.roles
  | none => .publicAccess

/-- Whether an account, or nobody, has an attribute. -/
def Attribut.accorde (compte : Option UtilisateurRow) : Attribut → Bool
  | publicAccess => true
  | isAuthenticatedFully => compte.isSome
  | role nom => compte.any fun row => isGranted row.roles nom

/-- The `IsGranted` attribute of a controller. -/
def Action.isGranted : Action → Attribut
  | reservationsCreate | reservationsIndex | reservationsDelete => .role "ROLE_USER"
  | getStats => .role "ROLE_ADMIN"
  | _ => .publicAccess

/-! ### Requests -/

/-- A page or an action of EasyAdmin that writes, with what it reads in the url and the form. -/
inductive PageAdmin where
  | empruntNew (form : Emprunt)
  | empruntEdit (entityId : ℕ) (form : Emprunt)
  | empruntDelete (entityId : ℕ)
  | rendreLivre (entityId : ℕ)
  | transformerEnEmprunt (entityId : ℕ)
  | reservationsNew (form : Reservations)
  | reservationsEdit (entityId : ℕ) (form : Reservations)
  | reservationsDelete (entityId : ℕ)
  | utilisateurNew (form : UtilisateurCrudController.Form)
  | utilisateurEdit (entityId : ℕ) (form : UtilisateurCrudController.Form)
  | utilisateurDelete (entityId : ℕ)
  | livreNew (form : Livre)
  | livreEdit (entityId : ℕ) (form : Livre)
  | livreDelete (entityId : ℕ)

/-- A HTTP request: what the application reads of it, the time it is served at, the date of that
day, and the salt its hash draws.  `parSouvenir` says that the user of the session is there by the
remember-me cookie. -/
structure RequeteHttp where
  methode : Methode
  path : String
  bearer : Option Token
  session : Option UtilisateurRow
  parSouvenir : Bool
  souvenir : Option Souvenir
  identifiants : Option (String × String)
  data : Json
  page : Option PageAdmin
  now : Instant
  today : Date
  sel : ℕ

/-- The request of a page, made by an account with the roles `acteur`. -/
def PageAdmin.requete (acteur : List String) (r : RequeteHttp) : PageAdmin → Requete
  | empruntNew form => .empruntNew form r.now
  | empruntEdit entityId form => .empruntEdit entityId form
  | empruntDelete entityId => .empruntDelete entityId
  | rendreLivre entityId => .rendreLivre entityId r.now
  | transformerEnEmprunt entityId => .transformerEnEmprunt entityId r.now
  | reservationsNew form => .reservationsNew form
  | reservationsEdit entityId form => .reservationsEdit entityId form
  | reservationsDelete entityId => .reservationsDelete entityId
  | utilisateurNew form => .utilisateurNew acteur form r.sel r.today
  | utilisateurEdit entityId form => .utilisateurEdit acteur entityId form r.sel r.today
  | utilisateurDelete entityId => .utilisateurDelete acteur entityId
  | livreNew form => .livreNew acteur form
  | livreEdit entityId form => .livreEdit acteur entityId form
  | livreDelete entityId => .livreDelete acteur entityId

/-- The outcome of a HTTP request. -/
inductive Decision where
  | refus (status : ℕ)
  /-- A controller that only reads, and the account it is called by. -/
  | lecture (action : Action) (compte : Option UtilisateurRow)
  /-- The dashboard and the pages of EasyAdmin that only read. -/
  | lectureAdmin (compte : UtilisateurRow)
  | requete (r : Requete)

/-- What the application takes from the packages: the services of the requests, `crc32c` and the
tokens of the logins, the row id of a route parameter, and the password hasher. -/
structure Http where
  services : Services
  crc32c : String → String
  jwt : Jwt
  entityId : String → Option ℕ
  verify : UtilisateurRow → String → Bool
  rehash : UtilisateurRow → String → Option String

namespace Http

variable (http : Http) (s : Tables) (r : RequeteHttp)

/-- The account of the firewall `main`. -/
def compteMain : Option UtilisateurRow :=
  Pont.utilisateur http.crc32c s r.now r.session r.souvenir

/-- The account of the firewall `api`; `none` for a token that is not accepted. -/
def compteApi : Option (Option UtilisateurRow) :=
  match r.bearer with
  | none => some none
  | some token => ((http.jwt.lire token).bind (authentifierApi s r.now)).map some

/-- The account whose email and password the body of a login holds. -/
def compteConnexion : Option UtilisateurRow := do
  let (email, password) ← r.identifiants
  (s.findByEmail email).filter fun row => http.verify row password

/-- The end of a login. -/
def connexion (row : UtilisateurRow) : Decision :=
  match r.identifiants.bind fun e => http.rehash row e.2 with
  | some newHashedPassword => .requete (.upgradePassword row.id newHashedPassword)
  | none => .lecture .authLogin (some row)

/-- The account that a request is made by, or nobody; `none` if it is refused for its token. -/
def compte : Option (Option UtilisateurRow) :=
  match firewall r.path with
  | .api => http.compteApi s r
  | .main => some (http.compteMain s r)
  | .login | .dev => some none

/-- The controller of a route, for the account that may call it. -/
def appeler (action : Action) (id : Option String) (compte : Option UtilisateurRow) : Decision :=
  match action, compte with
  | .register, _ => .requete (.register r.data r.sel)
  | .updateMe, some row => .requete (.updateMe row.id r.data)
  | .updateMe, none => .refus 401
  | .reservationsCreate, some row =>
    match id.bind http.entityId with
    | some livre => .requete (.apiCreate row.id livre r.now)
    | none => .refus 404
  | .reservationsDelete, some row =>
    match id.bind http.entityId with
    | some reservation => .requete (.apiDelete row.id reservation)
    | none => .refus 404
  | .reservationsCreate, none | .reservationsDelete, none => .refus 401
  | action, compte => .lecture action compte

/-- A request without the roles it needs.  Behind the firewall `main`, nobody and the user of a
remember-me cookie are sent to the login form. -/
def refuser (compte : Option UtilisateurRow) : Decision :=
  if firewall r.path = .main ∧ (compte = none ∨ r.session = none ∨ r.parSouvenir) then .refus 302
  else if compte = none then .refus 401
  else .refus 403

/-- The pages of EasyAdmin, whose controllers all ask for `ROLE_BIBLIO`. -/
def appelerAdmin (row : UtilisateurRow) : Decision :=
  match r.page with
  | none => .lectureAdmin row
  | some page =>
    if isGranted row.roles "ROLE_BIBLIO" then .requete (page.requete row.roles r)
    else refuser r (some row)

/-- The outcome of a request. -/
def decider : Decision :=
  if (segments r.path).head? = some "admin" then
    match http.compte s r with
    | some (some row) =>
      if (attributDe r.methode r.path).accorde (some row) then appelerAdmin r row
      else refuser r (some row)
    | _ => refuser r none
  else
    match trouverRoute r.methode (segments r.path) with
    | .error status => .refus status
    | .ok (action, id) =>
      if action = .authLogin ∨ action = .securityLogin ∧ r.methode = .post then
        -- the two authenticators of logins answer in place of the controllers
        match http.compteConnexion s r with
        | some row => http.connexion r row
        | none => .refus (if action = .authLogin then 401 else 302)
      else
        match http.compte s r with
        | none => .refus 401
        | some compte =>
          if (attributDe r.methode r.path).accorde compte && action.isGranted.accorde compte then
            http.appeler r action id compte
          else refuser r compte

end Http

/-! ### Interleavings -/

/-- What happens to the server: a request is received, or one of those under way makes its next
access to the database. -/
inductive EvenementHttp where
  | recevoir (r : RequeteHttp)
  | avancer (i : ℕ)

/-- The server: the tables, and the requests that have been let through. -/
abbrev ServeurHttp := Config Tables Statement Reponse Requete

/-- One event.  A request is let through, or not, when it is received. -/
def Http.step (http : Http) (c : ServeurHttp) : EvenementHttp → ServeurHttp
  | .recevoir r =>
    match http.decider c.store r with
    | .requete q => c.step (Requete.handler http.services) (.arrive q)
    | _ => c
  | .avancer i => c.step (Requete.handler http.services) (.advance i)

end Biblio
