import Biblio.Equiv.TokenOwner
import Biblio.Pont
import Mathlib.Logic.Equiv.Nat

/-!
# Two logins of one browser

* `bridge_synchronises`: whatever the two front ends held before, a login through the client and the
  way back to the public site leave both logged in as one account, and a logout from either side
  leaves neither logged in.  A login through the form of Symfony goes to the page that was asked for
  before; it reaches the client where that is the dashboard, which sends members on.
* `bridge_keeps_accord`: in every run, the two front ends are never logged in as different accounts,
  as long as no login is made over another one that it leaves in place (`SansMelange`): one by the
  form that does not reach the client; that of the client, which does not reach the remember-me
  cookie; and a link to the client with a token.

The three things that stand for a login, the token, the session and the cookie, all name an email
(`Pont.identites`); the invariant is that the emails named are one for the database (`Porte`).
Accounts may be renamed, created and deleted meanwhile: each of the three is resolved by its email
at the moment it is used, and a session whose account has another email now is dropped.
-/

namespace Biblio

namespace Pont

variable {crc32c : String → String} {jwt : Jwt} {p : Pont}

/-! ### One account on both sides -/

/-- Both front ends are logged in as the account of a row. -/
structure ConnecteComme (crc32c : String → String) (jwt : Jwt) (p : Pont) (row : UtilisateurRow) :
    Prop where
  api : p.compteApi jwt = some row
  main : p.getUser crc32c = some row
  isLoggedIn : p.client.isLoggedIn = true

/-- Neither front end is logged in. -/
structure Deconnecte (crc32c : String → String) (jwt : Jwt) (p : Pont) : Prop where
  api : p.compteApi jwt = none
  main : p.getUser crc32c = none
  isLoggedIn : p.client.isLoggedIn = false

theorem memesRoles_self (roles : List (ℕ × String)) : memesRoles roles roles = true := by
  have hall : roles.filter (fun e => inArray e.2 roles) = roles := by
    refine List.filter_eq_self.mpr fun e he => ?_
    exact List.any_eq_true.mpr ⟨e, he, beq_self_eq_true _⟩
  simp [memesRoles, hall]

/-- A session that was just opened is that of its account. -/
theorem refreshUser_serialize {s : Tables} {row : UtilisateurRow}
    (hrow : row ∈ s.utilisateur.rows) :
    refreshUser crc32c s (serialize crc32c row) = some row := by
  have hfind : s.utilisateur.find row.id = some row :=
    (s.utilisateur.find_eq_some_iff _ _).mpr ⟨hrow, rfl⟩
  unfold refreshUser serialize
  simp [hfind, memesRoles_self]

theorem getUser_of_session {row : UtilisateurRow} (hrow : row ∈ p.tables.utilisateur.rows)
    (hs : p.session = some (serialize crc32c row)) : p.getUser crc32c = some row := by
  unfold getUser utilisateur
  rw [hs]
  exact refreshUser_serialize hrow

theorem mem_of_refreshUser {s : Tables} {u row : UtilisateurRow}
    (h : refreshUser crc32c s u = some row) : row ∈ s.utilisateur.rows ∧ row.email = u.email := by
  unfold refreshUser at h
  split at h
  · cases h
  · next found hfound =>
    split_ifs at h with hsame
    obtain rfl := Option.some.inj h
    exact ⟨Table.mem_of_find hfound, hsame.1⟩

theorem mem_of_rappeler {s : Tables} {now : Instant} {c : Souvenir} {row : UtilisateurRow}
    (h : rappeler s now c = some row) :
    row ∈ s.utilisateur.rows ∧ s.memeEmail row.email c.identifiant = true := by
  unfold rappeler at h
  split_ifs at h
  exact mem_of_findByEmail (Option.eq_some_of_filter_eq_some h)

/-- The account of a request to Symfony comes from the session or from the cookie. -/
theorem getUser_eq_some {row : UtilisateurRow} (h : p.getUser crc32c = some row) :
    row ∈ p.tables.utilisateur.rows ∧
      ((∃ u, p.session = some u ∧ row.email = u.email) ∨
        ∃ c, p.souvenir = some c ∧ p.tables.memeEmail row.email c.identifiant = true) := by
  unfold getUser utilisateur at h
  split at h
  · next u hu =>
    obtain ⟨hmem, hemail⟩ := mem_of_refreshUser h
    exact ⟨hmem, Or.inl ⟨u, hu, hemail⟩⟩
  · obtain ⟨c, hc, hrappel⟩ := Option.bind_eq_some_iff.mp h
    obtain ⟨hmem, hmeme⟩ := mem_of_rappeler hrappel
    exact ⟨hmem, Or.inr ⟨c, hc, hmeme⟩⟩

/-! ### Requests to the firewall `main` -/

/-- What a request to Symfony changes by itself. -/
theorem authentifier_eq (crc32c : String → String) (p : Pont) :
    ∃ parSouvenir souvenir, authentifier crc32c p = { p with
      session := (p.getUser crc32c).map (serialize crc32c)
      parSouvenir := parSouvenir
      souvenir := souvenir } := by
  unfold authentifier
  dsimp only
  split
  · exact ⟨p.parSouvenir, _, rfl⟩
  · exact ⟨(p.getUser crc32c).isSome, _, rfl⟩

@[simp] theorem tables_authentifier : (authentifier crc32c p).tables = p.tables := by
  obtain ⟨_, _, heq⟩ := authentifier_eq crc32c p
  rw [heq]

@[simp] theorem horloge_authentifier : (authentifier crc32c p).horloge = p.horloge := by
  obtain ⟨_, _, heq⟩ := authentifier_eq crc32c p
  rw [heq]

@[simp] theorem client_authentifier : (authentifier crc32c p).client = p.client := by
  obtain ⟨_, _, heq⟩ := authentifier_eq crc32c p
  rw [heq]

@[simp] theorem targetPath_authentifier : (authentifier crc32c p).targetPath = p.targetPath := by
  obtain ⟨_, _, heq⟩ := authentifier_eq crc32c p
  rw [heq]

@[simp] theorem session_authentifier :
    (authentifier crc32c p).session = (p.getUser crc32c).map (serialize crc32c) := by
  obtain ⟨_, _, heq⟩ := authentifier_eq crc32c p
  rw [heq]

/-- The cookie that it leaves is the one there was, or renews it. -/
theorem souvenir_authentifier {c' : Souvenir} (h : (authentifier crc32c p).souvenir = some c') :
    ∃ c, p.souvenir = some c ∧ p.tables.memeEmail c'.identifiant c.identifiant = true := by
  unfold authentifier at h
  dsimp only at h
  split at h
  · dsimp only at h
    split_ifs at h
    exact ⟨c', h, beq_self_eq_true _⟩
  · next hnone =>
    obtain ⟨row, hrow, rfl⟩ := Option.map_eq_some_iff.mp h
    obtain ⟨-, ⟨u, hu, -⟩ | hcookie⟩ := getUser_eq_some hrow
    · rw [hnone] at hu
      cases hu
    · exact hcookie

/-- The request leaves the browser logged in as it was. -/
@[simp] theorem getUser_authentifier :
    (authentifier crc32c p).getUser crc32c = p.getUser crc32c := by
  cases huser : p.getUser crc32c with
  | some row =>
    refine getUser_of_session ?_ ?_
    · rw [tables_authentifier]
      exact (getUser_eq_some huser).1
    · rw [session_authentifier, huser, Option.map_some]
  | none =>
    have hsouvenir : (authentifier crc32c p).souvenir = none := by
      unfold authentifier
      dsimp only
      rw [huser]
      split <;> rfl
    unfold getUser utilisateur
    rw [session_authentifier, huser, hsouvenir]
    rfl

/-! ### What the client holds after a navigation -/

@[simp] theorem tables_arriverFront (t : Option Token) (a : Option String) :
    (p.arriverFront t a).tables = p.tables := by simp only [arriverFront]

@[simp] theorem horloge_arriverFront (t : Option Token) (a : Option String) :
    (p.arriverFront t a).horloge = p.horloge := by simp only [arriverFront]

@[simp] theorem session_arriverFront (t : Option Token) (a : Option String) :
    (p.arriverFront t a).session = p.session := by simp only [arriverFront]

@[simp] theorem souvenir_arriverFront (t : Option Token) (a : Option String) :
    (p.arriverFront t a).souvenir = p.souvenir := by simp only [arriverFront]

theorem jwtToken_constructor (o : Option Token) : (AuthService.constructor o).jwtToken = o := by
  cases o <;> rfl

theorem isLoggedIn_constructor (o : Option Token) :
    (AuthService.constructor o).isLoggedIn = o.isSome := by
  cases o <;> rfl

theorem jwtToken_handleLoginSuccess (s : Session) (t : Token) :
    (AuthService.handleLoginSuccess AuthService.rolesDuPayload s t).jwtToken = some t ∧
      (AuthService.handleLoginSuccess AuthService.rolesDuPayload s t).isLoggedIn = true := by
  unfold AuthService.handleLoginSuccess
  dsimp only
  split <;> exact ⟨rfl, rfl⟩

theorem client_arriverFront_some (t : Token) (a : Option String) :
    (p.arriverFront (some t) a).client.jwtToken = some t ∧
      (p.arriverFront (some t) a).client.isLoggedIn = true := by
  simp only [arriverFront, App.constructor]
  exact jwtToken_handleLoginSuccess _ t

theorem client_arriverFront_none :
    (p.arriverFront none none).client.jwtToken = p.client.jwtToken ∧
      (p.arriverFront none none).client.isLoggedIn = p.client.jwtToken.isSome :=
  ⟨jwtToken_constructor _, isLoggedIn_constructor _⟩

/-- A token is accepted when it has just been issued. -/
theorem decode_create (row : UtilisateurRow) (now : Instant) :
    JWTEncoder.decode (JWTTokenManager.create row now) now
      = some (JWTTokenManager.create row now) := by
  unfold JWTEncoder.decode
  rw [if_pos]
  exact Int.le_add_of_nonneg_right (by decide)

/-- An account is found by its own email. -/
theorem findByEmail_email {s : Tables} (hu : EmailsUniques s) {row : UtilisateurRow}
    (hrow : row ∈ s.utilisateur.rows) : s.findByEmail row.email = some row := by
  have hself : s.memeEmail row.email row.email = true := beq_self_eq_true _
  cases hfind : s.findByEmail row.email with
  | none => exact absurd hself (List.find?_eq_none.mp hfind row hrow)
  | some a => rw [(findByEmail_eq_some hu hfind row hrow).mp hself]

/-- The account of a token that has just been issued. -/
theorem compteApi_of_texte {row : UtilisateurRow} (hu : EmailsUniques p.tables)
    (hrow : row ∈ p.tables.utilisateur.rows)
    (ht : p.client.jwtToken = some (jwt.texte row p.horloge)) : p.compteApi jwt = some row := by
  unfold compteApi
  rw [ht, Option.bind_some, jwt.lire_texte, Option.bind_some]
  unfold authentifierApi
  rw [decode_create, Option.bind_some]
  exact findByEmail_email hu hrow

/-! ### Logins and logouts -/

theorem deconnecte_deconnexion (p : Pont) : Deconnecte crc32c jwt p.deconnexion :=
  ⟨rfl, rfl, rfl⟩

/-- The way back to the public site brings the login along. -/
theorem connecteComme_toAngular (hu : EmailsUniques p.tables) {row : UtilisateurRow}
    (h : p.getUser crc32c = some row) : ConnecteComme crc32c jwt (p.toAngular crc32c jwt) row := by
  have hrow := (getUser_eq_some h).1
  have heq : p.toAngular crc32c jwt
      = (authentifier crc32c p).arriverFront (some (jwt.texte row p.horloge)) none := by
    unfold toAngular
    rw [h]
  have hclient := @client_arriverFront_some (authentifier crc32c p) (jwt.texte row p.horloge) none
  rw [← heq] at hclient
  have htables : (p.toAngular crc32c jwt).tables = p.tables := by
    rw [heq, tables_arriverFront, tables_authentifier]
  have hhorloge : (p.toAngular crc32c jwt).horloge = p.horloge := by
    rw [heq, horloge_arriverFront, horloge_authentifier]
  refine ⟨?_, ?_, hclient.2⟩
  · refine compteApi_of_texte (by rw [htables]; exact hu) (by rw [htables]; exact hrow) ?_
    rw [hhorloge, hclient.1]
  · refine getUser_of_session (by rw [htables]; exact hrow) ?_
    rw [heq, session_arriverFront, session_authentifier, h, Option.map_some]

/-- The page that a login ends on which was asked for at an address. -/
def arrivee (row : UtilisateurRow) (a : Adresse) : Page :=
  match a, isGranted row.roles "ROLE_BIBLIO" with
  | .admin, true => .tableauDeBord
  | .admin, false => .front
  | .crud path permission, true => if isGranted row.roles permission then .crud path else .refus
  | .crud _ _, false => .refus

/-- The session was opened for an account, and not by the cookie. -/
structure Ouverte (crc32c : String → String) (p : Pont) (row : UtilisateurRow) : Prop where
  mem : row ∈ p.tables.utilisateur.rows
  session : p.session = some (serialize crc32c row)
  parSouvenir : p.parSouvenir = false

theorem ouverte_login {row : UtilisateurRow} (hrow : row ∈ p.tables.utilisateur.rows) :
    Ouverte crc32c (login crc32c p row) row := by
  refine ⟨?_, rfl, rfl⟩
  show row ∈ (authentifier crc32c p).tables.utilisateur.rows
  rw [tables_authentifier]
  exact hrow

theorem Ouverte.getUser {row : UtilisateurRow} (h : Ouverte crc32c p row) :
    p.getUser crc32c = some row := getUser_of_session h.mem h.session

@[simp] theorem compteApi_authentifier :
    (authentifier crc32c p).compteApi jwt = p.compteApi jwt := by
  unfold compteApi
  rw [client_authentifier, tables_authentifier, horloge_authentifier]

/-- A page below `/admin`, right after a login: it is shown or refused, but for the dashboard, which
brings members to the public site. -/
theorem Ouverte.demander_eq {row : UtilisateurRow} (h : Ouverte crc32c p row) (a : Adresse) :
    p.demander crc32c jwt a =
      if arrivee row a = .front then toAngular crc32c jwt (authentifier crc32c p)
      else { authentifier crc32c p with page := arrivee row a } := by
  have hlogin : (authentifier crc32c p).parSouvenir = false := by
    unfold authentifier
    rw [h.session]
    exact h.parSouvenir
  unfold demander arrivee
  rw [h.getUser]
  dsimp only
  cases a with
  | admin => cases isGranted row.roles "ROLE_BIBLIO" <;> simp
  | crud path permission =>
    cases isGranted row.roles "ROLE_BIBLIO" with
    | false => simp [hlogin]
    | true => by_cases hgranted : isGranted row.roles permission = true <;> simp [hgranted]

/-- Where a login on the side of Symfony ends, and what it does to the client. -/
theorem Ouverte.demander {row : UtilisateurRow} (h : Ouverte crc32c p row)
    (hu : EmailsUniques p.tables) (a : Adresse) :
    (p.demander crc32c jwt a).page = arrivee row a ∧
      (p.demander crc32c jwt a).getUser crc32c = some row ∧
      if arrivee row a = .front then ConnecteComme crc32c jwt (p.demander crc32c jwt a) row
      else (p.demander crc32c jwt a).client = p.client := by
  have hget : (authentifier crc32c p).getUser crc32c = some row := by
    rw [getUser_authentifier, h.getUser]
  rw [h.demander_eq a]
  by_cases harrive : arrivee row a = .front
  · rw [if_pos harrive, if_pos harrive, harrive]
    have hboth : ConnecteComme crc32c jwt (toAngular crc32c jwt (authentifier crc32c p)) row := by
      refine connecteComme_toAngular ?_ hget
      rw [tables_authentifier]
      exact hu
    refine ⟨?_, hboth.main, hboth⟩
    unfold toAngular
    rw [hget]
    rfl
  · rw [if_neg harrive, if_neg harrive]
    exact ⟨rfl, hget, client_authentifier⟩

/-- A librarian who is logged in on both sides stays so on the dashboard. -/
theorem Ouverte.connecteComme_demander {row : UtilisateurRow} (h : Ouverte crc32c p row)
    (hboth : ConnecteComme crc32c jwt p row) (hbiblio : isGranted row.roles "ROLE_BIBLIO" = true) :
    ConnecteComme crc32c jwt (p.demander crc32c jwt .admin) row ∧
      (p.demander crc32c jwt .admin).page = .tableauDeBord := by
  have harrive : arrivee row .admin = .tableauDeBord := by
    unfold arrivee
    rw [hbiblio]
  rw [h.demander_eq, harrive, if_neg (by decide)]
  refine ⟨⟨?_, ?_, ?_⟩, rfl⟩
  · exact compteApi_authentifier.trans hboth.api
  · exact getUser_authentifier.trans hboth.main
  · show (authentifier crc32c p).client.isLoggedIn = true
    rw [client_authentifier]
    exact hboth.isLoggedIn

/-- The bridge to Symfony, for the token of an account that has just been issued. -/
theorem toSymfony_texte (hu : EmailsUniques p.tables) {row : UtilisateurRow}
    (hrow : row ∈ p.tables.utilisateur.rows) :
    p.toSymfony crc32c jwt (jwt.texte row p.horloge) =
      if truthy (some row.email) then
        if isGranted row.roles "ROLE_BIBLIO" then
          Pont.demander crc32c jwt (login crc32c p row) .admin
        else (login crc32c p row).arriverFront none none
      else connexion crc32c p := by
  have hfind : p.tables.findByEmail (JWTTokenManager.create row p.horloge).username = some row :=
    findByEmail_email hu hrow
  unfold toSymfony
  rw [if_pos (jwt.truthy_texte ..), jwt.lire_texte, Option.bind_some, decode_create]
  dsimp only
  rw [hfind]
  rfl

/-- The browser when `Login::onSubmit` has stored the token of an account. -/
def avecJeton (jwt : Jwt) (p : Pont) (row : UtilisateurRow) : Pont :=
  { p with
    client := AuthService.handleLoginSuccess AuthService.rolesDuPayload p.client
      (jwt.texte row p.horloge) }

@[simp] theorem tables_avecJeton (row : UtilisateurRow) :
    (avecJeton jwt p row).tables = p.tables := by simp only [avecJeton]

@[simp] theorem horloge_avecJeton (row : UtilisateurRow) :
    (avecJeton jwt p row).horloge = p.horloge := by simp only [avecJeton]

@[simp] theorem session_avecJeton (row : UtilisateurRow) :
    (avecJeton jwt p row).session = p.session := by simp only [avecJeton]

@[simp] theorem souvenir_avecJeton (row : UtilisateurRow) :
    (avecJeton jwt p row).souvenir = p.souvenir := by simp only [avecJeton]

@[simp] theorem getUser_avecJeton {row : UtilisateurRow} :
    (avecJeton jwt p row).getUser crc32c = p.getUser crc32c := by
  simp only [getUser, avecJeton]

theorem onSubmit_of_findByEmail (hu : EmailsUniques p.tables) {email : String}
    {row : UtilisateurRow} (h : p.tables.findByEmail email = some row) :
    p.onSubmit crc32c jwt email =
      if truthy (some row.email) then
        if isGranted row.roles "ROLE_BIBLIO" then
          Pont.demander crc32c jwt (login crc32c (avecJeton jwt p row) row) .admin
        else (login crc32c (avecJeton jwt p row) row).arriverFront none none
      else connexion crc32c (avecJeton jwt p row) := by
  obtain ⟨hrow, -⟩ := mem_of_findByEmail h
  rw [← @tables_avecJeton jwt p row] at hu hrow
  have hsym := @toSymfony_texte crc32c jwt (avecJeton jwt p row) hu row hrow
  rw [horloge_avecJeton] at hsym
  unfold onSubmit
  rw [h]
  exact hsym

theorem client_avecJeton (row : UtilisateurRow) :
    (avecJeton jwt p row).client.jwtToken = some (jwt.texte row p.horloge) ∧
      (avecJeton jwt p row).client.isLoggedIn = true := by
  simp only [avecJeton]
  exact jwtToken_handleLoginSuccess p.client (jwt.texte row p.horloge)

/-- The API takes the token for the account it was issued to. -/
theorem compteApi_avecJeton (hu : EmailsUniques p.tables) {row : UtilisateurRow}
    (hrow : row ∈ p.tables.utilisateur.rows) : (avecJeton jwt p row).compteApi jwt = some row := by
  rw [← @tables_avecJeton jwt p row] at hu hrow
  refine compteApi_of_texte hu hrow ?_
  rw [horloge_avecJeton, (client_avecJeton row).1]

/-- Loading the client again changes neither login. -/
theorem connecteComme_arriverFront {row : UtilisateurRow} (h : ConnecteComme crc32c jwt p row) :
    ConnecteComme crc32c jwt (p.arriverFront none none) row := by
  obtain ⟨hkeeps, hstays⟩ := @client_arriverFront_none p
  refine ⟨?_, h.main, ?_⟩
  · show ((p.arriverFront none none).client.jwtToken.bind jwt.lire).bind _ = some row
    rw [hkeeps]
    exact h.api
  · rw [hstays]
    cases htoken : p.client.jwtToken with
    | none =>
      have happ := h.api
      rw [compteApi, htoken] at happ
      cases happ
    | some t => rfl

/-- A login through the client, for an email that is true in a condition. -/
theorem connecteComme_onSubmit (hu : EmailsUniques p.tables) {email : String}
    {row : UtilisateurRow} (h : p.tables.findByEmail email = some row)
    (htruthy : truthy (some row.email) = true) :
    ConnecteComme crc32c jwt (p.onSubmit crc32c jwt email) row ∧
      (p.onSubmit crc32c jwt email).page =
        if isGranted row.roles "ROLE_BIBLIO" then .tableauDeBord else .front := by
  obtain ⟨hrow, -⟩ := mem_of_findByEmail h
  rw [onSubmit_of_findByEmail hu h, if_pos htruthy]
  have hopen : Ouverte crc32c (login crc32c (avecJeton jwt p row) row) row :=
    ouverte_login (by rw [tables_avecJeton]; exact hrow)
  have hboth : ConnecteComme crc32c jwt (login crc32c (avecJeton jwt p row) row) row := by
    refine ⟨?_, hopen.getUser, ?_⟩
    · exact compteApi_authentifier.trans (compteApi_avecJeton hu hrow)
    · show (authentifier crc32c (avecJeton jwt p row)).client.isLoggedIn = true
      rw [client_authentifier]
      exact (client_avecJeton row).2
  cases hbiblio : isGranted row.roles "ROLE_BIBLIO" with
  | true =>
    rw [if_pos rfl, if_pos rfl]
    exact hopen.connecteComme_demander hboth hbiblio
  | false =>
    rw [if_neg Bool.false_ne_true, if_neg Bool.false_ne_true]
    exact ⟨connecteComme_arriverFront hboth, rfl⟩

/-- With another email the way to Symfony ends on its login form. -/
theorem page_onSubmit_of_falsy (hu : EmailsUniques p.tables) {email : String}
    {row : UtilisateurRow} (h : p.tables.findByEmail email = some row)
    (hfalsy : truthy (some row.email) = false) :
    (p.onSubmit crc32c jwt email).compteApi jwt = some row ∧
      (p.onSubmit crc32c jwt email).getUser crc32c = p.getUser crc32c ∧
      (p.onSubmit crc32c jwt email).page = .connexion := by
  obtain ⟨hrow, -⟩ := mem_of_findByEmail h
  rw [onSubmit_of_findByEmail hu h, if_neg (Bool.eq_false_iff.mp hfalsy)]
  refine ⟨?_, ?_, rfl⟩
  · exact compteApi_authentifier.trans (compteApi_avecJeton hu hrow)
  · exact (@getUser_authentifier crc32c (avecJeton jwt p row)).trans getUser_avecJeton

/-- The browser when the form of Symfony has accepted an account. -/
def parFormulaire (crc32c : String → String) (p : Pont) (row : UtilisateurRow)
    (rememberMe : Bool) : Pont :=
  { login crc32c p row with
    souvenir := if rememberMe then some (creerSouvenir row p.horloge) else none }

theorem ouverte_parFormulaire {row : UtilisateurRow} (hrow : row ∈ p.tables.utilisateur.rows)
    (rememberMe : Bool) : Ouverte crc32c (parFormulaire crc32c p row rememberMe) row :=
  ⟨(ouverte_login hrow).mem, rfl, rfl⟩

theorem onAuthenticationSuccess_of_findByEmail {email : String} {row : UtilisateurRow}
    (rememberMe : Bool) (h : p.tables.findByEmail email = some row) :
    p.onAuthenticationSuccess crc32c jwt email rememberMe =
      Pont.demander crc32c jwt (parFormulaire crc32c p row rememberMe)
        (p.targetPath.getD .admin) := by
  unfold onAuthenticationSuccess
  rw [h]
  rfl

/-- The tables and the client of a browser whose session changes. -/
theorem parFormulaire_eq (row : UtilisateurRow) (rememberMe : Bool) :
    (parFormulaire crc32c p row rememberMe).tables = p.tables ∧
      (parFormulaire crc32c p row rememberMe).client = p.client :=
  ⟨tables_authentifier, client_authentifier⟩

/-- A login through the form of Symfony. -/
theorem page_onAuthenticationSuccess (hu : EmailsUniques p.tables) {email : String}
    {row : UtilisateurRow} (rememberMe : Bool) (h : p.tables.findByEmail email = some row) :
    (p.onAuthenticationSuccess crc32c jwt email rememberMe).page
        = arrivee row (p.targetPath.getD .admin) ∧
      (p.onAuthenticationSuccess crc32c jwt email rememberMe).getUser crc32c = some row ∧
      if arrivee row (p.targetPath.getD .admin) = .front then
        ConnecteComme crc32c jwt (p.onAuthenticationSuccess crc32c jwt email rememberMe) row
      else (p.onAuthenticationSuccess crc32c jwt email rememberMe).client = p.client := by
  obtain ⟨hrow, -⟩ := mem_of_findByEmail h
  obtain ⟨htables, hclient⟩ := @parFormulaire_eq crc32c p row rememberMe
  have hopen : Ouverte crc32c (parFormulaire crc32c p row rememberMe) row :=
    ouverte_parFormulaire hrow rememberMe
  rw [onAuthenticationSuccess_of_findByEmail rememberMe h, ← hclient]
  exact hopen.demander (by rw [htables]; exact hu) _

/-- A page that a visitor without login asks for is the target of his login. -/
theorem demander_of_getUser_none (h : p.getUser crc32c = none) (a : Adresse) :
    (p.demander crc32c jwt a).page = .connexion ∧
      (p.demander crc32c jwt a).targetPath = some a := by
  unfold demander startAuthentication connexion
  rw [h]
  exact ⟨rfl, targetPath_authentifier⟩

/-! ### The database in a run -/

@[simp] theorem tables_toAngular : (p.toAngular crc32c jwt).tables = p.tables := by
  unfold toAngular
  split <;> rw [tables_arriverFront, tables_authentifier]

@[simp] theorem tables_connexion : (connexion crc32c p).tables = p.tables := tables_authentifier

@[simp] theorem tables_startAuthentication (a : Adresse) :
    (startAuthentication crc32c p a).tables = p.tables :=
  tables_authentifier.trans tables_authentifier

@[simp] theorem tables_login (row : UtilisateurRow) : (login crc32c p row).tables = p.tables :=
  tables_authentifier

@[simp] theorem tables_demander (a : Adresse) : (p.demander crc32c jwt a).tables = p.tables := by
  unfold demander
  split
  · exact tables_startAuthentication a
  · dsimp only
    split
    · split_ifs
      · rw [tables_toAngular, tables_authentifier]
      · exact tables_authentifier
    · split_ifs
      · rw [tables_startAuthentication, tables_authentifier]
      · exact tables_authentifier
      · exact tables_authentifier
      · exact tables_authentifier

@[simp] theorem tables_toSymfony (t : Token) : (p.toSymfony crc32c jwt t).tables = p.tables := by
  unfold toSymfony
  split
  · split
    · rfl
    · split
      · split
        · split
          · rw [tables_demander, tables_login]
          · rw [tables_arriverFront, tables_login]
        · exact tables_connexion
      · exact tables_connexion
  · exact tables_connexion

theorem tables_onSubmit (email : String) : (p.onSubmit crc32c jwt email).tables = p.tables := by
  unfold onSubmit
  split
  · exact tables_toSymfony _
  · rfl

theorem tables_goToAdmin : (p.goToAdmin crc32c jwt).tables = p.tables := by
  unfold goToAdmin
  split
  · exact tables_toSymfony _
  · rfl

theorem tables_onAuthenticationSuccess (email : String) (rememberMe : Bool) :
    (p.onAuthenticationSuccess crc32c jwt email rememberMe).tables = p.tables := by
  unfold onAuthenticationSuccess
  split
  · next row _ =>
    rw [tables_demander]
    exact tables_login row
  · exact tables_connexion

theorem tables_erreur (i status : ℕ) : (p.erreur i status).tables = p.tables := by
  unfold erreur
  dsimp only
  split <;> rfl

theorem tables_surFront {suite : Pont} (h : suite.tables = p.tables) :
    (p.surFront suite).tables = p.tables := by
  unfold surFront
  split
  · exact h
  · rfl

/-- The database after a step. -/
theorem tables_step (services : Services) (n : Navigation) :
    (p.step services crc32c jwt n).tables =
      match n with
      | .requete r => r.apres services p.tables
      | _ => p.tables := by
  cases n with
  | visiterFront token => rfl
  | visiterAdmin a => exact tables_demander a
  | onSubmit email => exact tables_surFront (tables_onSubmit email)
  | goToAdmin => exact tables_surFront tables_goToAdmin
  | logout => exact tables_surFront rfl
  | retourAuSite => exact tables_toAngular
  | deconnexion => rfl
  | formulaire email rememberMe => exact tables_onAuthenticationSuccess _ _
  | composant => exact tables_surFront rfl
  | succes i => exact tables_surFront rfl
  | erreur i status => exact tables_surFront (tables_erreur i status)
  | requete r => rfl
  | attendre duree => rfl
  | finDeSession => rfl

theorem emailsUniques_step (services : Services) (hu : EmailsUniques p.tables) (n : Navigation) :
    EmailsUniques (p.step services crc32c jwt n).tables := by
  rw [tables_step]
  cases n with
  | requete r => exact emailsUniques_apres services hu r
  | _ => exact hu

/-! ### One email on both sides -/

/-- The token, the session and the cookie all name emails that are one for the database. -/
structure Porte (jwt : Jwt) (p : Pont) (cle : String) : Prop where
  token : ∀ j, p.client.jwtToken.bind jwt.lire = some j → p.tables.emailKey j.username = cle
  session : ∀ u, p.session = some u → p.tables.emailKey u.email = cle
  souvenir : ∀ c, p.souvenir = some c → p.tables.emailKey c.identifiant = cle

namespace Porte

variable {cle : String}

/-- Logins that are kept or dropped. -/
theorem moins {q : Pont} (h : Porte jwt p cle) (hkey : q.tables.emailKey = p.tables.emailKey)
    (htoken : q.client.jwtToken = p.client.jwtToken ∨ q.client.jwtToken = none)
    (hsession : q.session = p.session ∨ q.session = none)
    (hsouvenir : q.souvenir = p.souvenir ∨ q.souvenir = none) : Porte jwt q cle where
  token j hj := by
    rw [hkey]
    rcases htoken with ht | ht <;> rw [ht] at hj
    · exact h.token j hj
    · cases hj
  session u hu := by
    rw [hkey]
    rcases hsession with hs | hs <;> rw [hs] at hu
    · exact h.session u hu
    · cases hu
  souvenir c hc := by
    rw [hkey]
    rcases hsouvenir with hs | hs <;> rw [hs] at hc
    · exact h.souvenir c hc
    · cases hc

theorem emailKey_getUser (h : Porte jwt p cle) {row : UtilisateurRow}
    (hget : p.getUser crc32c = some row) : p.tables.emailKey row.email = cle := by
  obtain ⟨-, ⟨u, hu, hemail⟩ | ⟨c, hc, hmeme⟩⟩ := getUser_eq_some hget
  · rw [hemail]
    exact h.session u hu
  · rw [← h.souvenir c hc]
    exact beq_iff_eq.mp hmeme

/-- **Accord.**  Where all emails are one, both sides are logged in as the same account. -/
theorem accord (h : Porte jwt p cle) (hu : EmailsUniques p.tables) {a b : UtilisateurRow}
    (ha : p.compteApi jwt = some a) (hb : p.getUser crc32c = some b) : a = b := by
  have hkeyb := h.emailKey_getUser hb
  obtain ⟨j, hj, hauth⟩ := Option.bind_eq_some_iff.mp ha
  obtain ⟨payload, hpayload, hfind⟩ := Option.bind_eq_some_iff.mp hauth
  have hj' : payload = j := by
    unfold JWTEncoder.decode at hpayload
    split_ifs at hpayload
    exact (Option.some.inj hpayload).symm
  obtain ⟨hmem, hmeme⟩ := mem_of_findByEmail hfind
  refine hu a hmem b (getUser_eq_some hb).1 ?_
  have hkeya : p.tables.emailKey a.email = cle := by
    rw [← h.token j hj, ← hj']
    exact beq_iff_eq.mp hmeme
  exact beq_iff_eq.mpr (hkeya.trans hkeyb.symm)

theorem authentifier (h : Porte jwt p cle) : Porte jwt (authentifier crc32c p) cle where
  token := by
    rw [client_authentifier, tables_authentifier]
    exact h.token
  session u hu := by
    rw [session_authentifier] at hu
    obtain ⟨row, hrow, rfl⟩ := Option.map_eq_some_iff.mp hu
    rw [tables_authentifier]
    show p.tables.emailKey row.email = cle
    exact h.emailKey_getUser hrow
  souvenir c' hc' := by
    obtain ⟨c, hc, hmeme⟩ := souvenir_authentifier hc'
    rw [tables_authentifier, ← h.souvenir c hc]
    exact beq_iff_eq.mp hmeme

/-- Where the navigation ends, and for which page, makes no difference. -/
theorem ailleurs (h : Porte jwt p cle) (page : Page) (targetPath : Option Adresse) :
    Porte jwt { p with page := page, targetPath := targetPath } cle :=
  h.moins rfl (Or.inl rfl) (Or.inl rfl) (Or.inl rfl)

theorem arriverFront_none (h : Porte jwt p cle) : Porte jwt (p.arriverFront none none) cle :=
  h.moins rfl (Or.inl client_arriverFront_none.1) (Or.inl rfl) (Or.inl rfl)

/-- The client is loaded with a token for the email of the session and the cookie. -/
theorem arriverFront_some (h : Porte jwt p cle) {t : Token}
    (ht : ∀ j, jwt.lire t = some j → p.tables.emailKey j.username = cle) :
    Porte jwt (p.arriverFront (some t) none) cle where
  token j hj := by
    rw [(client_arriverFront_some t none).1] at hj
    rw [tables_arriverFront]
    exact ht j hj
  session u hu := by
    rw [session_arriverFront] at hu
    rw [tables_arriverFront]
    exact h.session u hu
  souvenir c hc := by
    rw [souvenir_arriverFront] at hc
    rw [tables_arriverFront]
    exact h.souvenir c hc

theorem toAngular (h : Porte jwt p cle) : Porte jwt (p.toAngular crc32c jwt) cle := by
  unfold Pont.toAngular
  split
  · next row hrow =>
    refine h.authentifier.arriverFront_some fun j hj => ?_
    rw [jwt.lire_texte] at hj
    obtain rfl := Option.some.inj hj
    rw [tables_authentifier]
    exact h.emailKey_getUser hrow
  · exact h.authentifier.arriverFront_none

/-- The way back replaces the token of the client, whatever it is. -/
theorem toAngular_of_getUser {row : UtilisateurRow} (h : p.getUser crc32c = some row)
    (hsouvenir : ∀ c, p.souvenir = some c →
      p.tables.emailKey c.identifiant = p.tables.emailKey row.email) :
    Porte jwt (p.toAngular crc32c jwt) (p.tables.emailKey row.email) := by
  unfold Pont.toAngular
  rw [h]
  dsimp only
  refine ⟨fun j hj => ?_, fun u hu => ?_, fun c hc => ?_⟩ <;>
    rw [tables_arriverFront, tables_authentifier]
  · rw [(client_arriverFront_some _ none).1, Option.bind_some, jwt.lire_texte] at hj
    obtain rfl := Option.some.inj hj
    rfl
  · rw [session_arriverFront, session_authentifier, h] at hu
    obtain rfl := Option.some.inj hu
    rfl
  · rw [souvenir_arriverFront] at hc
    obtain ⟨c', hc', hmeme⟩ := souvenir_authentifier hc
    rw [beq_iff_eq.mp hmeme]
    exact hsouvenir c' hc'

theorem connexion (h : Porte jwt p cle) : Porte jwt (connexion crc32c p) cle :=
  h.authentifier.ailleurs _ _

theorem startAuthentication (h : Porte jwt p cle) (a : Adresse) :
    Porte jwt (startAuthentication crc32c p a) cle :=
  (h.authentifier.ailleurs _ _).connexion

theorem demander (h : Porte jwt p cle) (a : Adresse) :
    Porte jwt (p.demander crc32c jwt a) cle := by
  unfold Pont.demander
  split
  · exact h.startAuthentication a
  · dsimp only
    split
    · split_ifs
      · exact h.authentifier.toAngular
      · exact h.authentifier.ailleurs _ _
    · split_ifs
      · exact h.authentifier.startAuthentication _
      · exact h.authentifier.ailleurs _ _
      · exact h.authentifier.ailleurs _ _
      · exact h.authentifier.ailleurs _ _

/-- A login that the token and the cookie agree with; what the session held before is gone. -/
theorem login {row : UtilisateurRow}
    (htoken : ∀ j, p.client.jwtToken.bind jwt.lire = some j →
      p.tables.emailKey j.username = p.tables.emailKey row.email)
    (hsouvenir : ∀ c, p.souvenir = some c →
      p.tables.emailKey c.identifiant = p.tables.emailKey row.email) :
    Porte jwt (login crc32c p row) (p.tables.emailKey row.email) where
  token := by
    show ∀ j, (Pont.authentifier crc32c p).client.jwtToken.bind jwt.lire = some j →
      (Pont.authentifier crc32c p).tables.emailKey j.username = _
    rw [client_authentifier, tables_authentifier]
    exact htoken
  session u hu := by
    obtain rfl := Option.some.inj hu
    show (Pont.authentifier crc32c p).tables.emailKey row.email = _
    rw [tables_authentifier]
  souvenir c' hc' := by
    obtain ⟨c, hc, hmeme⟩ := souvenir_authentifier hc'
    show (Pont.authentifier crc32c p).tables.emailKey c'.identifiant = _
    rw [tables_authentifier, ← hsouvenir c hc]
    exact beq_iff_eq.mp hmeme

/-- The bridge to Symfony, for a token that agrees with the rest. -/
theorem toSymfony (h : Porte jwt p cle) {t : Token}
    (ht : ∀ j, jwt.lire t = some j → p.tables.emailKey j.username = cle) :
    Porte jwt (p.toSymfony crc32c jwt t) cle := by
  unfold Pont.toSymfony
  split
  on_goal 2 => exact h.connexion
  split
  · exact h.ailleurs _ _
  · next payload hpayload =>
    split
    · split
      · next user huser =>
        obtain ⟨j, hj, hdecode⟩ := Option.bind_eq_some_iff.mp hpayload
        obtain rfl : payload = j := by
          unfold JWTEncoder.decode at hdecode
          split_ifs at hdecode
          exact (Option.some.inj hdecode).symm
        have hkey : p.tables.emailKey user.email = cle := by
          rw [← ht payload hj]
          exact beq_iff_eq.mp (mem_of_findByEmail huser).2
        have hlogin : Porte jwt (Pont.login crc32c p user) cle := by
          rw [← hkey]
          exact login (fun j hj => (h.token j hj).trans hkey.symm)
            fun c hc => (h.souvenir c hc).trans hkey.symm
        split
        · exact hlogin.demander _
        · exact hlogin.arriverFront_none
      · exact h.connexion
    · exact h.connexion

end Porte

/-! ### Logins that leave another one in place -/

/-- A login does not come over one of another account that it leaves in place. -/
def SansMelange (jwt : Jwt) (p : Pont) : Navigation → Prop
  | .onSubmit email => ∀ row, p.tables.findByEmail email = some row →
      (∀ c, p.souvenir = some c → p.tables.memeEmail c.identifiant row.email = true) ∧
        (truthy (some row.email) = true ∨
          ∀ u, p.session = some u → p.tables.memeEmail u.email row.email = true)
  | .formulaire email _ => ∀ row, p.tables.findByEmail email = some row →
      arrivee row (p.targetPath.getD .admin) ≠ .front →
        ∀ j, p.client.jwtToken.bind jwt.lire = some j →
          p.tables.memeEmail j.username row.email = true
  | .visiterFront (some t) => ∀ j, jwt.lire t = some j →
      (∀ u, p.session = some u → p.tables.memeEmail u.email j.username = true) ∧
        ∀ c, p.souvenir = some c → p.tables.memeEmail c.identifiant j.username = true
  | _ => True

theorem porte_onSubmit {cle : String} (hu : EmailsUniques p.tables) (h : Porte jwt p cle)
    {email : String} (hok : SansMelange jwt p (.onSubmit email)) :
    ∃ cle, Porte jwt (p.onSubmit crc32c jwt email) cle := by
  cases hfind : p.tables.findByEmail email with
  | none =>
    unfold onSubmit
    rw [hfind]
    exact ⟨cle, h⟩
  | some row =>
    obtain ⟨hsouvenir, hsession⟩ := hok row hfind
    have htoken : ∀ j, (avecJeton jwt p row).client.jwtToken.bind jwt.lire = some j →
        (avecJeton jwt p row).tables.emailKey j.username
          = (avecJeton jwt p row).tables.emailKey row.email := by
      intro j hj
      rw [(client_avecJeton row).1, Option.bind_some, jwt.lire_texte] at hj
      obtain rfl := Option.some.inj hj
      rfl
    have hcookie : ∀ c, (avecJeton jwt p row).souvenir = some c →
        (avecJeton jwt p row).tables.emailKey c.identifiant
          = (avecJeton jwt p row).tables.emailKey row.email := by
      intro c hc
      rw [souvenir_avecJeton] at hc
      rw [tables_avecJeton]
      exact beq_iff_eq.mp (hsouvenir c hc)
    have hlogin : Porte jwt (login crc32c (avecJeton jwt p row) row)
        ((avecJeton jwt p row).tables.emailKey row.email) := Porte.login htoken hcookie
    refine ⟨(avecJeton jwt p row).tables.emailKey row.email, ?_⟩
    rw [onSubmit_of_findByEmail hu hfind]
    by_cases htruthy : truthy (some row.email) = true
    · rw [if_pos htruthy]
      split
      · exact hlogin.demander _
      · exact hlogin.arriverFront_none
    · rw [if_neg htruthy]
      have hsession := hsession.resolve_left htruthy
      refine Porte.connexion ⟨htoken, fun u hu => ?_, hcookie⟩
      rw [session_avecJeton] at hu
      rw [tables_avecJeton]
      exact beq_iff_eq.mp (hsession u hu)

theorem porte_onAuthenticationSuccess {cle : String} (h : Porte jwt p cle)
    {email : String} {rememberMe : Bool}
    (hok : SansMelange jwt p (.formulaire email rememberMe)) :
    ∃ cle, Porte jwt (p.onAuthenticationSuccess crc32c jwt email rememberMe) cle := by
  cases hfind : p.tables.findByEmail email with
  | none =>
    have hsans : Porte jwt { p with souvenir := none } cle :=
      h.moins rfl (Or.inl rfl) (Or.inl rfl) (Or.inr rfl)
    unfold onAuthenticationSuccess
    rw [hfind]
    exact ⟨cle, hsans.connexion⟩
  | some row =>
    obtain ⟨hrow, -⟩ := mem_of_findByEmail hfind
    obtain ⟨htables, hclient⟩ := @parFormulaire_eq crc32c p row rememberMe
    have hopen : Ouverte crc32c (parFormulaire crc32c p row rememberMe) row :=
      ouverte_parFormulaire hrow rememberMe
    have hsession : ∀ u, (parFormulaire crc32c p row rememberMe).session = some u →
        p.tables.emailKey u.email = p.tables.emailKey row.email := by
      intro u hu
      obtain rfl := Option.some.inj hu
      rfl
    have hsouvenir : ∀ c, (parFormulaire crc32c p row rememberMe).souvenir = some c →
        p.tables.emailKey c.identifiant = p.tables.emailKey row.email := by
      intro c hc
      unfold parFormulaire at hc
      cases rememberMe with
      | false => cases hc
      | true =>
        obtain rfl := Option.some.inj hc
        rfl
    refine ⟨p.tables.emailKey row.email, ?_⟩
    rw [onAuthenticationSuccess_of_findByEmail rememberMe hfind]
    by_cases harrive : arrivee row (p.targetPath.getD .admin) = .front
    · -- the client gets a token for the account, whatever it had before
      have hget : (authentifier crc32c (parFormulaire crc32c p row rememberMe)).getUser crc32c
          = some row := by
        rw [getUser_authentifier, hopen.getUser]
      have hporte := @Porte.toAngular_of_getUser crc32c jwt _ row hget fun c hc => by
        obtain ⟨c', hc', hmeme⟩ := souvenir_authentifier hc
        rw [htables] at hmeme
        rw [tables_authentifier, htables, beq_iff_eq.mp hmeme]
        exact hsouvenir c' hc'
      rw [tables_authentifier, htables] at hporte
      rw [hopen.demander_eq, if_pos harrive]
      exact hporte
    · have hq : Porte jwt (parFormulaire crc32c p row rememberMe)
          (p.tables.emailKey row.email) := by
        refine ⟨?_, ?_, ?_⟩
        · rw [htables, hclient]
          exact fun j hj => beq_iff_eq.mp (hok row hfind harrive j hj)
        · rw [htables]
          exact hsession
        · rw [htables]
          exact hsouvenir
      exact hq.demander _

theorem jwtToken_succes (compteDe : Token → Option Compte) (s : Session) (i : ℕ) :
    (s.succes compteDe i).jwtToken = s.jwtToken := by
  unfold Session.succes
  split
  · split <;> rfl
  · rfl
  · rfl
  · rfl

theorem jwtToken_error (s : Session) (a : AppelHttp) (status : ℕ) :
    (authInterceptor.error s a status).jwtToken = s.jwtToken ∨
      (authInterceptor.error s a status).jwtToken = none := by
  unfold authInterceptor.error
  split
  · exact Or.inr rfl
  · exact Or.inl rfl

theorem jwtToken_erreur (s : Session) (i status : ℕ) :
    (s.erreur i status).jwtToken = s.jwtToken ∨ (s.erreur i status).jwtToken = none := by
  unfold Session.erreur
  split
  · exact Or.inr rfl
  · exact jwtToken_error (s.recu i) .login status
  · exact jwtToken_error (s.recu i) .composant status
  · exact Or.inl rfl

theorem porte_surFront {suite : Pont} (h : ∃ cle, Porte jwt p cle)
    (hsuite : ∃ cle, Porte jwt suite cle) : ∃ cle, Porte jwt (p.surFront suite) cle := by
  unfold surFront
  split
  · exact hsuite
  · exact h

theorem porte_deconnexion {cle : String} (h : Porte jwt p cle) : Porte jwt p.deconnexion cle :=
  h.moins rfl (Or.inr rfl) (Or.inr rfl) (Or.inr rfl)

/-- **One step.**  The emails named stay one. -/
theorem porte_step (services : Services) (hu : EmailsUniques p.tables)
    (h : ∃ cle, Porte jwt p cle) (n : Navigation) (hok : SansMelange jwt p n) :
    ∃ cle, Porte jwt (p.step services crc32c jwt n) cle := by
  obtain ⟨cle, hp⟩ := h
  cases n with
  | visiterFront token =>
    cases token with
    | none => exact ⟨cle, hp.arriverFront_none⟩
    | some t =>
      cases hlire : jwt.lire t with
      | none => exact ⟨cle, hp.arriverFront_some fun j hj => by rw [hlire] at hj; cases hj⟩
      | some j =>
        obtain ⟨hsession, hsouvenir⟩ := hok j hlire
        have htoken := (@client_arriverFront_some p t none).1
        refine ⟨p.tables.emailKey j.username, fun j' hj' => ?_, fun u hu => ?_, fun c hc => ?_⟩
        · change (p.arriverFront (some t) none).client.jwtToken.bind jwt.lire = some j' at hj'
          rw [htoken, Option.bind_some, hlire] at hj'
          obtain rfl := Option.some.inj hj'
          rfl
        · exact beq_iff_eq.mp (hsession u hu)
        · exact beq_iff_eq.mp (hsouvenir c hc)
  | visiterAdmin a => exact ⟨cle, hp.demander a⟩
  | onSubmit email => exact porte_surFront ⟨cle, hp⟩ (porte_onSubmit hu hp hok)
  | goToAdmin =>
    refine porte_surFront ⟨cle, hp⟩ ⟨cle, ?_⟩
    unfold goToAdmin
    split
    · next t ht => exact hp.toSymfony fun j hj => hp.token j (by rw [ht]; exact hj)
    · exact hp
  | logout =>
    refine porte_surFront ⟨cle, hp⟩ ⟨cle, porte_deconnexion ?_⟩
    exact hp.moins rfl (Or.inr rfl) (Or.inl rfl) (Or.inl rfl)
  | retourAuSite => exact ⟨cle, hp.toAngular⟩
  | deconnexion => exact ⟨cle, porte_deconnexion hp⟩
  | formulaire email rememberMe => exact porte_onAuthenticationSuccess hp hok
  | composant =>
    refine porte_surFront ⟨cle, hp⟩ ⟨cle, ?_⟩
    exact hp.moins rfl (Or.inl rfl) (Or.inl rfl) (Or.inl rfl)
  | succes i =>
    refine porte_surFront ⟨cle, hp⟩ ⟨cle, ?_⟩
    exact hp.moins rfl (Or.inl (jwtToken_succes _ _ _)) (Or.inl rfl) (Or.inl rfl)
  | erreur i status =>
    have hp' : Porte jwt { p with client := p.client.erreur i status } cle :=
      hp.moins rfl (jwtToken_erreur _ _ _) (Or.inl rfl) (Or.inl rfl)
    refine porte_surFront ⟨cle, hp⟩ ⟨cle, ?_⟩
    unfold erreur
    dsimp only
    split
    · exact porte_deconnexion hp'
    · exact hp'
  | requete r =>
    have hkey := emailKey_apres services p.tables r
    exact ⟨cle, hp.moins hkey (Or.inl rfl) (Or.inl rfl) (Or.inl rfl)⟩
  | attendre duree => exact ⟨cle, hp.moins rfl (Or.inl rfl) (Or.inl rfl) (Or.inl rfl)⟩
  | finDeSession => exact ⟨cle, hp.moins rfl (Or.inl rfl) (Or.inr rfl) (Or.inl rfl)⟩

end Pont

open Pont

/-! ### Whole runs -/

theorem emailsUniques_run_pont (services : Services) (crc32c : String → String) (jwt : Jwt)
    {p₀ : Pont} (h₀ : EmailsUniques p₀.tables) (ns : List Navigation) :
    EmailsUniques (run (Pont.step services crc32c jwt) p₀ ns).tables :=
  run_preserves (I := fun p : Pont => EmailsUniques p.tables) _
    (fun _ n h => Pont.emailsUniques_step services h n) ns p₀ h₀

/-- **Login and logout on both sides.**  After any run, a login through the client, for an email
that PHP takes for true, and the way back to the public site leave both front ends logged in as the
one account, and both ways out leave neither logged in.  A login through the form of Symfony ends on
the target that its session keeps, the dashboard if there is none; it leaves both front ends logged
in if it ends on the public site, as that of a member without another target does, and leaves the
client as it was if not.  That target is the page a visitor without login had asked for. -/
theorem bridge_synchronises (services : Services) (crc32c : String → String) (jwt : Jwt) (p₀ : Pont)
    (h₀ : EmailsUniques p₀.tables) (ns : List Navigation) :
    let p := run (Pont.step services crc32c jwt) p₀ ns
    (∀ email row, p.tables.findByEmail email = some row →
      let q := p.onSubmit crc32c jwt email
      if truthy (some row.email) then
        ConnecteComme crc32c jwt q row ∧
          q.page = if isGranted row.roles "ROLE_BIBLIO" then .tableauDeBord else .front
      else q.compteApi jwt = some row ∧ q.getUser crc32c = p.getUser crc32c ∧
        q.page = .connexion) ∧
    (∀ email rememberMe row, p.tables.findByEmail email = some row →
      let q := p.onAuthenticationSuccess crc32c jwt email rememberMe
      q.page = arrivee row (p.targetPath.getD .admin) ∧ q.getUser crc32c = some row ∧
        if q.page = .front then ConnecteComme crc32c jwt q row else q.client = p.client) ∧
    (∀ a, p.getUser crc32c = none →
      (p.demander crc32c jwt a).page = .connexion ∧
        (p.demander crc32c jwt a).targetPath = some a) ∧
    (∀ row, p.getUser crc32c = some row →
      ConnecteComme crc32c jwt (p.toAngular crc32c jwt) row ∧
        (p.toAngular crc32c jwt).page = .front) ∧
    Deconnecte crc32c jwt p.logout ∧ Deconnecte crc32c jwt p.deconnexion := by
  intro p
  have hu : EmailsUniques p.tables := emailsUniques_run_pont services crc32c jwt h₀ ns
  refine ⟨fun email row h => ?_, fun email rememberMe row h => ?_, fun a h => ?_, fun row h => ?_,
    deconnecte_deconnexion _, deconnecte_deconnexion _⟩
  · cases htruthy : truthy (some row.email) with
    | true =>
      rw [if_pos rfl]
      exact connecteComme_onSubmit hu h htruthy
    | false =>
      rw [if_neg Bool.false_ne_true]
      exact page_onSubmit_of_falsy hu h htruthy
  · obtain ⟨hpage, hget, hclient⟩ := page_onAuthenticationSuccess hu rememberMe h
    refine ⟨hpage, hget, ?_⟩
    rw [hpage]
    exact hclient
  · exact demander_of_getUser_none h a
  · refine ⟨connecteComme_toAngular hu h, ?_⟩
    unfold toAngular
    rw [h]
    rfl

/-- Tokens for examples: the time of expiry in decimals, a dot and the email. -/
def Exemple.texte (row : UtilisateurRow) (now : Instant) : List Char :=
  Nat.toDigits 10 (Equiv.intEquivNat (now + tokenTtl)) ++ '.' :: row.email.toList

/-- They are read back. -/
def Exemple.jwt : Jwt where
  texte row now := ⟨String.ofList (Exemple.texte row now), by
    intro h
    have hlist := congrArg String.toList h
    rw [String.toList_ofList] at hlist
    simp [Exemple.texte] at hlist⟩
  lire t :=
    let chiffres := t.1.toList.takeWhile (· != '.')
    some ⟨String.ofList (t.1.toList.drop (chiffres.length + 1)),
      Equiv.intEquivNat.symm (Nat.ofDigitChars 10 chiffres 0)⟩
  lire_texte row now := by
    have hdigits : ∀ c ∈ Nat.toDigits 10 (Equiv.intEquivNat (now + tokenTtl)),
        (c != '.') = true := by
      intro c hc
      have hdigit := isDigit_of_mem hc
      rw [bne_iff_ne]
      rintro rfl
      exact absurd hdigit (by decide)
    have htake : (Exemple.texte row now).takeWhile (· != '.')
        = Nat.toDigits 10 (Equiv.intEquivNat (now + tokenTtl)) := by
      unfold Exemple.texte
      rw [List.takeWhile_append_of_pos hdigits]
      simp
    have hdrop : (Exemple.texte row now).drop
        ((Nat.toDigits 10 (Equiv.intEquivNat (now + tokenTtl))).length + 1) = row.email.toList := by
      unfold Exemple.texte
      simp
    dsimp only
    rw [String.toList_ofList, htake, hdrop, Nat.ofDigitChars_ten_toDigits,
      Equiv.symm_apply_apply, String.ofList_toList]
    rfl
  truthy_texte row now := by
    have hdot : '.' ∈ (String.ofList (Exemple.texte row now)).toList := by
      rw [String.toList_ofList]
      simp [Exemple.texte]
    rw [truthy, Bool.and_eq_true, bne_iff_ne, bne_iff_ne]
    refine ⟨fun h => ?_, fun h => ?_⟩
    · have hempty : '.' ∈ "".toList := h ▸ hdot
      cases hempty
    · have hzero : '.' ∈ "0".toList := h ▸ hdot
      exact absurd hzero (by decide)

/-- A browser at the public site, without any login. -/
def Exemple.pont : Pont :=
  ⟨Exemple.tables .empty .empty, 0, AuthService.constructor none, none, false, none, none, .front⟩

/-- After a visit to the loans without login, a member logs in through the client, or through the
form, where he is refused; or he logs out. -/
theorem bridge_synchronises_member :
    let membre := Exemple.compte 5 "adherent0@articles.fr" ["ROLE_USER"] "password"
    let p := run (Pont.step Exemple.services id Exemple.jwt) Exemple.pont
      [.visiterAdmin (.crud "emprunt" "ROLE_BIBLIO")]
    ConnecteComme id Exemple.jwt (p.onSubmit id Exemple.jwt "adherent0@articles.fr") membre ∧
      (p.onAuthenticationSuccess id Exemple.jwt "adherent0@articles.fr" false).page = .refus ∧
      Deconnecte id Exemple.jwt p.logout := by
  intro membre p
  have hfind : p.tables.findByEmail "adherent0@articles.fr" = some membre := by decide
  obtain ⟨hclient, hform, -, -, hlogout, -⟩ := bridge_synchronises Exemple.services id Exemple.jwt
    Exemple.pont emailsUniques_exemple [.visiterAdmin (.crud "emprunt" "ROLE_BIBLIO")]
  have hsubmit := hclient "adherent0@articles.fr" membre hfind
  rw [if_pos (by decide)] at hsubmit
  refine ⟨hsubmit.1, ?_, hlogout⟩
  exact (hform "adherent0@articles.fr" false membre hfind).1.trans (by decide)

/-- **Accord.**  In every run without a login over another one that stays, the two front ends are
never logged in as different accounts. -/
theorem bridge_keeps_accord (services : Services) (crc32c : String → String) (jwt : Jwt) (p₀ : Pont)
    (h₀ : EmailsUniques p₀.tables) (hporte : ∃ cle, Porte jwt p₀ cle) (ns : List Navigation)
    (hok : Along (Pont.step services crc32c jwt) (SansMelange jwt) p₀ ns) :
    let p := run (Pont.step services crc32c jwt) p₀ ns
    ∀ a b, p.compteApi jwt = some a → p.getUser crc32c = some b → a = b := by
  intro p a b ha hb
  have hend : EmailsUniques p.tables ∧ ∃ cle, Porte jwt p cle :=
    run_invariant _ (I := fun p : Pont => EmailsUniques p.tables ∧ ∃ cle, Porte jwt p cle)
      (fun p n h hn => ⟨Pont.emailsUniques_step services h.1 n, porte_step services h.1 h.2 n hn⟩)
      ns p₀ ⟨h₀, hporte⟩ hok
  obtain ⟨hu, cle, hp⟩ := hend
  exact hp.accord hu ha hb

/-- A member logs in through the client, takes another address on another computer, and asks for the
dashboard. -/
theorem bridge_keeps_accord_after_rename :
    let membre := Exemple.compte 5 "adherent0@articles.fr" ["ROLE_USER"] "password"
    let connexion := Navigation.onSubmit "adherent0@articles.fr"
    let suite := [Navigation.requete (.updateMe 5 (.obj [("email", .str "lucy@articles.fr")])),
      .visiterAdmin .admin]
    let etape := Pont.step Exemple.services id Exemple.jwt
    let p := run etape Exemple.pont (connexion :: suite)
    ConnecteComme id Exemple.jwt (etape Exemple.pont connexion) membre ∧
      ∀ a b, p.compteApi Exemple.jwt = some a → p.getUser id = some b → a = b := by
  intro membre connexion suite etape p
  have hfind : Exemple.pont.tables.findByEmail "adherent0@articles.fr" = some membre := by decide
  refine ⟨(connecteComme_onSubmit emailsUniques_exemple hfind (by decide)).1, ?_⟩
  refine bridge_keeps_accord Exemple.services id Exemple.jwt Exemple.pont emailsUniques_exemple
    ⟨"", ?_, ?_, ?_⟩ (connexion :: suite) ⟨?_, trivial, trivial, trivial⟩
  · intro j hj
    cases hj
  · intro u hu
    cases hu
  · intro c hc
    cases hc
  · intro row hrow
    obtain rfl := Option.some.inj (hfind.symm.trans hrow)
    refine ⟨?_, Or.inl (by decide)⟩
    intro c hc
    cases hc

end Biblio
