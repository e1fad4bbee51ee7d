import Biblio.Lecture
import Biblio.Sso
import Mathlib.Logic.Function.Basic

/-!
# The page of a member

The component `Profil` of the Angular client in front of the API.  `Espace` is the client from a
login to its logout, with the database and the clock: the token, the components of the page, of
which the last one is shown, and all that they have sent.  A request is served at some moment after
it is sent, and its answer arrives at some moment after that; it is awaited until then, unless it is
lost, a `forkJoin` drops it or `logout` leaves the client.  A request that is not awaited any more
may still be served.

`PasProfil` lists what happens: what the member does on the page, the service and the answers of the
requests in any order, and all the other requests that change the database.
-/

namespace Biblio

/-! ### The component -/

/-- The signals of the component and the fields of its form. -/
structure Profil where
  emprunts : List EmpruntRead
  reservations : List ReservationRead
  user : Option UtilisateurRead
  email : String
  adressePostale : String
  numTel : String
  successMessage : String
  errorMessageProfil : String
  isLoading : Bool
  deriving DecidableEq

/-- The three requests of `refreshData`. -/
inductive Partie where
  | empruntsData
  | reservationsData
  | userData
  deriving DecidableEq

/-- What the form sends. -/
structure FormProfil where
  email : String
  adressePostale : String
  numTel : String
  deriving DecidableEq

def FormProfil.json (form : FormProfil) : Json :=
  .obj [("email", .str form.email), ("adressePostale", .str form.adressePostale),
    ("numTel", .str form.numTel)]

/-! ### Answers, as a subscriber reads them -/

namespace ReponseLue

def status : ReponseLue → ℕ
  | message status _ => status
  | _ => 200

/-- The subscriber gets `next`, and not `error`. -/
def succes (r : ReponseLue) : Bool := 200 ≤ r.status && r.status < 300

/-- A list of loans; no other answer is one. -/
def lesEmprunts : ReponseLue → List EmpruntRead
  | emprunts l => l
  | _ => []

/-- A list of reservations. -/
def lesReservations : ReponseLue → List ReservationRead
  | reservations l => l
  | _ => []

/-- An account. -/
def compte : ReponseLue → Option UtilisateurRead
  | utilisateur u => some u
  | _ => none

end ReponseLue

namespace Profil

/-- The initial signals. -/
def constructeur : Profil := ⟨[], [], none, "", "", "", "", "", true⟩

/-- The subscriber of `refreshData`. -/
def refreshData.next (p : Profil) (results : Partie → ReponseLue) : Profil :=
  let user := (results .userData).compte
  { p with
    emprunts := (results .empruntsData).lesEmprunts
    reservations := (results .reservationsData).lesReservations
    user := user
    email := (user.bind fun u => u.email).getD ""
    adressePostale := (user.bind fun u => u.adressePostale).getD ""
    numTel := (user.bind fun u => u.numTel).getD ""
    isLoading := false }

def refreshData.error (p : Profil) : Profil := { p with isLoading := false }

/-- `this.email !== this.user()?.email`. -/
def emailChanged (p : Profil) : Bool := (p.user.bind fun u => u.email) != some p.email

def form (p : Profil) : FormProfil := ⟨p.email, p.adressePostale, p.numTel⟩

/-- The subscriber of `onSaveProfil`, where the email has not changed. -/
def onSaveProfil.next (p : Profil) (updatedUser : Option UtilisateurRead) : Profil :=
  { p with user := updatedUser, successMessage := "Profil mis à jour avec succès." }

def onSaveProfil.error (p : Profil) (status : ℕ) : Profil :=
  if status = 409 then
    { p with errorMessageProfil := "Cet email est déjà utilisé par un autre compte." }
  else { p with errorMessageProfil := "Erreur lors de la mise à jour du profil." }

end Profil

/-! ### Requests -/

/-- The requests of the components: a part of the `n`-th `forkJoin`, or one of the two that
write. -/
inductive AppelProfil where
  | partie (n : ℕ) (q : Partie)
  | updateProfile (composant : ℕ) (form : FormProfil) (emailChanged : Bool)
  | annulerReservation (composant id : ℕ)
  deriving DecidableEq

/-- The request, as the API gets it. -/
def AppelProfil.appel : AppelProfil → AppelMembre
  | partie _ .empruntsData => .get .mesEmprunts
  | partie _ .reservationsData => .get .mesReservations
  | partie _ .userData => .get .me
  | updateProfile _ form _ => .updateMe form.json
  | annulerReservation _ id => .delete id

/-- A request that was sent, with the token of its header, its answer once it is served, and
whether the client waits for it. -/
structure EnvoiProfil where
  appel : AppelProfil
  jeton : Option Jeton
  reponse : Option ReponseLue
  attendu : Bool
  deriving DecidableEq

/-- A `forkJoin`: the component that has subscribed to it, and what has arrived of its parts. -/
structure ForkJoin where
  composant : ℕ
  recues : Partie → Option ReponseLue
  ouvert : Bool

/-- The parts of a `forkJoin`, once all three have arrived. -/
def ForkJoin.results (f : ForkJoin) : Option (Partie → ReponseLue) := do
  let emprunts ← f.recues .empruntsData
  let reservations ← f.recues .reservationsData
  let user ← f.recues .userData
  return fun
    | .empruntsData => emprunts
    | .reservationsData => reservations
    | .userData => user

/-- The client, the database and the clock. -/
structure Espace where
  tables : Tables
  horloge : Instant
  jwtToken : Option Jeton
  isLoggedIn : Bool
  composants : ℕ → Profil
  nbComposants : ℕ
  forkJoins : ℕ → ForkJoin
  nbForkJoins : ℕ
  envois : List EnvoiProfil

namespace Espace

/-- A client that has just logged in. -/
def connecte (tables : Tables) (horloge : Instant) (jeton : Jeton) : Espace where
  tables := tables
  horloge := horloge
  jwtToken := some jeton
  isLoggedIn := true
  composants := fun _ => .constructeur
  nbComposants := 0
  forkJoins := fun _ => ⟨0, fun _ => none, false⟩
  nbForkJoins := 0
  envois := []

/-- `authInterceptor`, on the way out. -/
def envoyer (σ : Espace) (a : AppelProfil) : Espace :=
  { σ with envois := σ.envois ++ [⟨a, σ.jwtToken, none, true⟩] }

def modifier (σ : Espace) (c : ℕ) (f : Profil → Profil) : Espace :=
  { σ with composants := Function.update σ.composants c (f (σ.composants c)) }

/-- `forkJoin`, with the component `c` as its subscriber. -/
def forkJoin (σ : Espace) (c : ℕ) : Espace :=
  { σ with
    forkJoins := Function.update σ.forkJoins σ.nbForkJoins ⟨c, fun _ => none, true⟩
    nbForkJoins := σ.nbForkJoins + 1 }

/-- `Profil::refreshData`, up to the subscription. -/
def refreshData (σ : Espace) (c : ℕ) : Espace :=
  if σ.isLoggedIn then
    let n := σ.nbForkJoins
    let σ' := (σ.modifier c fun p => { p with isLoading := true }).forkJoin c
    ((σ'.envoyer (.partie n .empruntsData)).envoyer (.partie n .reservationsData)).envoyer
      (.partie n .userData)
  else σ.modifier c fun p => { p with isLoading := false }

/-- A new component. -/
def nouveau (σ : Espace) : Espace :=
  { σ.modifier σ.nbComposants fun _ => .constructeur with nbComposants := σ.nbComposants + 1 }

/-- The page is opened: `authGuard`, a new component and its `ngOnInit`. -/
def ngOnInit (σ : Espace) : Espace :=
  if σ.isLoggedIn then σ.nouveau.refreshData σ.nbComposants else σ

/-- The component that is shown. -/
def affiche (σ : Espace) : ℕ := σ.nbComposants - 1

/-- The fields of the form are bound both ways. -/
def saisir (σ : Espace) (form : FormProfil) : Espace :=
  σ.modifier σ.affiche fun p => { p with
    email := form.email, adressePostale := form.adressePostale, numTel := form.numTel }

/-- `Profil::onSaveProfil`, up to the subscription. -/
def onSaveProfil (σ : Espace) : Espace :=
  let p := σ.composants σ.affiche
  (σ.modifier σ.affiche fun p => { p with successMessage := "", errorMessageProfil := "" }).envoyer
    (.updateProfile σ.affiche p.form p.emailChanged)

/-- `Profil::onAnnuler`, once confirmed, up to the subscription. -/
def onAnnuler (σ : Espace) (id : ℕ) : Espace := σ.envoyer (.annulerReservation σ.affiche id)

/-- `AuthService::logout`: its navigation ends the components, with all they wait for. -/
def logout (σ : Espace) : Espace :=
  { σ with
    jwtToken := none
    isLoggedIn := false
    nbComposants := 0
    forkJoins := fun n => { σ.forkJoins n with ouvert := false }
    envois := σ.envois.map fun e => { e with attendu := false } }

/-! ### Answers -/

/-- The parts of a `forkJoin` that is over are not awaited any more. -/
def fermer (σ : Espace) (n : ℕ) : Espace :=
  { σ with
    forkJoins := Function.update σ.forkJoins n { σ.forkJoins n with ouvert := false }
    envois := σ.envois.map fun e =>
      match e.appel with
      | .partie m _ => if m = n then { e with attendu := false } else e
      | _ => e }

/-- The answer of a part is kept. -/
def noter (σ : Espace) (n : ℕ) (q : Partie) (rep : ReponseLue) : Espace :=
  { σ with
    forkJoins := Function.update σ.forkJoins n
      { σ.forkJoins n with recues := Function.update (σ.forkJoins n).recues q (some rep) } }

/-- A part of a `forkJoin` succeeds; with the last one, so does the whole. -/
def partieNext (σ : Espace) (n : ℕ) (q : Partie) (rep : ReponseLue) : Espace :=
  let σ' := σ.noter n q rep
  match (σ'.forkJoins n).results with
  | some results =>
    (σ'.fermer n).modifier (σ'.forkJoins n).composant fun p => Profil.refreshData.next p results
  | none => σ'

/-- The subscribers, on a success. -/
def next (σ : Espace) (rep : ReponseLue) : AppelProfil → Espace
  | .partie n q => σ.partieNext n q rep
  | .updateProfile c _ emailChanged =>
    if emailChanged then σ.logout
    else σ.modifier c fun p => Profil.onSaveProfil.next p rep.compte
  | .annulerReservation c _ => σ.refreshData c

/-- `authInterceptor`, on the way back; it also navigates to the login page. -/
def intercepter (σ : Espace) (status : ℕ) : Espace :=
  if status = 401 then { σ with jwtToken := none } else σ

/-- The subscribers, on an error. -/
def error (σ : Espace) (status : ℕ) : AppelProfil → Espace
  | .partie n _ => (σ.fermer n).modifier (σ.forkJoins n).composant Profil.refreshData.error
  | .updateProfile c _ _ => σ.modifier c fun p => Profil.onSaveProfil.error p status
  | .annulerReservation _ _ => σ

/-- The request `i` is not awaited any more. -/
def clore (σ : Espace) (i : ℕ) : Espace :=
  { σ with envois := σ.envois.modify i fun e => { e with attendu := false } }

/-- The answer of the request `i` arrives. -/
def recevoir (σ : Espace) (i : ℕ) : Espace :=
  match σ.envois[i]? with
  | some ⟨appel, _, some rep, true⟩ =>
    if rep.succes then (σ.clore i).next rep appel
    else ((σ.clore i).intercepter rep.status).error rep.status appel
  | _ => σ

/-- No answer of the request `i` arrives: `HttpClient` reports the status 0. -/
def perdre (σ : Espace) (i : ℕ) : Espace :=
  match σ.envois[i]? with
  | some ⟨appel, _, _, true⟩ => (σ.clore i).error 0 appel
  | _ => σ

/-! ### The API -/

/-- The answer to a request with a token; the text of the refusal is not read. -/
def repondre (api : Api) (σ : Espace) (e : EnvoiProfil) : Tables × ReponseLue :=
  match e.jeton.bind (authentifierApi σ.tables σ.horloge) with
  | some row =>
    (e.appel.appel.apres api row.id σ.tables, e.appel.appel.repondre api row.id σ.tables)
  | none => (σ.tables, .message 401 "")

/-- The request `i` is served. -/
def servir (api : Api) (σ : Espace) (i : ℕ) : Espace :=
  match σ.envois[i]? with
  | some e =>
    if e.reponse = none then
      let rep := σ.repondre api e
      { σ with
        tables := rep.1
        envois := σ.envois.modify i fun e => { e with reponse := some rep.2 } }
    else σ
  | none => σ

end Espace

/-! ### Runs -/

/-- What happens to the client and the database. -/
inductive PasProfil where
  | ngOnInit
  | saisir (form : FormProfil)
  | onSaveProfil
  | onAnnuler (id : ℕ)
  /-- `logout`, from the menu or by the subscriber of `loadUserInfo`. -/
  | logout
  /-- The interceptor removes the token after a request of another component. -/
  | oublier
  | servir (i : ℕ)
  | recevoir (i : ℕ)
  | perdre (i : ℕ)
  /-- Another request changes the database. -/
  | autre (r : Requete)
  | attendre (duree : ℕ)

/-- What the member does, as long as there is a page. -/
def Espace.surPage (σ suite : Espace) : Espace := if 0 < σ.nbComposants then suite else σ

/-- One step. -/
def Espace.step (services : Services) (api : Api) (σ : Espace) : PasProfil → Espace
  | .ngOnInit => σ.ngOnInit
  | .saisir form => σ.surPage (σ.saisir form)
  | .onSaveProfil => σ.surPage σ.onSaveProfil
  | .onAnnuler id => σ.surPage (σ.onAnnuler id)
  | .logout => σ.logout
  | .oublier => { σ with jwtToken := none }
  | .servir i => σ.servir api i
  | .recevoir i => σ.recevoir i
  | .perdre i => σ.perdre i
  | .autre r => { σ with tables := r.apres services σ.tables }
  | .attendre duree => { σ with horloge := σ.horloge + duree }

end Biblio
