import Biblio.Equiv.Accounts

/-!
# The data of accounts

Only the forms of the pages NEW and EDIT run the constraints declared on `Utilisateur`, and what
they accept is stored as it is.  `register` sets no date of membership, so the database takes none
of its accounts, and `updateMe` writes an email and a phone number that nothing has looked at, less
the spaces that are too much for their columns.

`account_data_valid_iff`: from an empty table, every row of every state of a run satisfies the
constraints exactly when no accepted `updateMe` of the run brings an invalid email or number.
-/

namespace Biblio

open Prog UtilisateurCrudController

/-- The constraints on an email: not blank, and an address. -/
def EmailValide (services : Services) (email : String) : Prop :=
  email ≠ "" ∧ services.emailStrict email = true

/-- The constraint on a phone number: the pattern, or nothing to match. -/
def NumTelValide (numTel : String) : Prop := numTel = "" ∨ telValide numTel = true

/-- The constraints on a name. -/
def NomValide (v : Option String) : Prop := ∃ t, v = some t ∧ 2 ≤ t.length ∧ t.length ≤ 100

/-- A row satisfies the constraints of the entity.  The date of membership is never null, by its
column. -/
structure Conforme (services : Services) (row : UtilisateurRow) : Prop where
  email : EmailValide services row.email
  nom : NomValide row.nom
  prenom : NomValide row.prenom
  numTel : ∀ t, row.numTel = some t → NumTelValide t

/-- Every account satisfies the constraints. -/
def Conformes (services : Services) (s : Tables) : Prop :=
  ∀ row ∈ s.utilisateur.rows, Conforme services row

/-- What the columns keep of the body of an `updateMe` is no invalid number, and no invalid email
instead of the one of the account. -/
structure CorpsValide (services : Services) (row : UtilisateurRow) (data : Json) : Prop where
  numTel : ∀ t, (data.get "numTel").toStringParam = some t → NumTelValide (couper 20 t)
  email : (data.get "email").identical row.email = false →
    ∀ e, (data.get "email").toStringParam = some e → EmailValide services (couper 180 e)

/-- `updateMe` accepts the body for the account `row`, and the database takes the update. -/
structure MajAcceptee (s : Tables) (user : ℕ) (data : Json) (row : UtilisateurRow) (email : String)
    (adressePostale numTel : Option String) : Prop where
  trouve : s.utilisateur.find user = some row
  decide : UserController.Decide s row data email adressePostale numTel
  enregistrable : (exec (.updateUtilisateur row.id row { row.toEntity with
    email := some email, adressePostale := adressePostale, numTel := numTel }) s).isSome = true

/-- A request is not an accepted `updateMe` with an invalid email or number. -/
def SansCorpsInvalide (services : Services) (s : Tables) : Requete → Prop
  | .updateMe user data => ∀ row email adressePostale numTel,
      MajAcceptee s user data row email adressePostale numTel → CorpsValide services row data
  | _ => True

/-! ### Lengths -/

theorem length_le_sauterEspace (cs : List Char) : cs.length ≤ (sauterEspace cs).length + 1 := by
  cases cs with
  | nil => exact Nat.zero_le _
  | cons c cs =>
    simp only [sauterEspace]
    split_ifs
    · exact Nat.le_refl _
    · exact Nat.le_succ _

/-- A group is two digits and at most one blank. -/
theorem length_le_of_telGroupes : ∀ {n : ℕ} {cs : List Char}, telGroupes n cs = true →
    cs.length ≤ 3 * n + 1
  | 0, cs, h => by
    simp only [telGroupes, Bool.or_eq_true, beq_iff_eq] at h
    rcases h with rfl | rfl <;> decide
  | n + 1, cs, h => by
    have hcs := length_le_sauterEspace cs
    unfold telGroupes at h
    split at h
    · next a b rest hsuite =>
      simp only [Bool.and_eq_true] at h
      have hrest := length_le_of_telGroupes h.2
      rw [hsuite, List.length_cons, List.length_cons] at hcs
      omega
    · cases h

theorem length_le_of_telSuite {cs : List Char} (h : telSuite cs = true) : cs.length ≤ 15 := by
  have hcs := length_le_sauterEspace cs
  unfold telSuite at h
  split at h
  · next c rest hsuite =>
    simp only [Bool.and_eq_true] at h
    have hrest := length_le_of_telGroupes h.2
    rw [hsuite, List.length_cons] at hcs
    omega
  · cases h

/-- The column keeps a number that satisfies its constraint. -/
theorem NumTelValide.length_le {t : String} (h : NumTelValide t) : t.length ≤ 20 := by
  rcases h with rfl | h
  · decide
  rw [← String.length_toList]
  unfold telValide at h
  split at h
  · next rest hnumTel =>
    have hrest := length_le_of_telSuite h
    rw [hnumTel]
    simp only [List.length_cons]
    omega
  · next rest hnumTel =>
    have hrest := length_le_of_telSuite h
    rw [hnumTel]
    simp only [List.length_cons]
    omega
  · cases h

theorem NomValide.length_le {v : Option String} (h : NomValide v) {t : String} (ht : v = some t) :
    t.length ≤ 100 := by
  obtain ⟨t', rfl, -, hmax⟩ := h
  exact Option.some.inj ht ▸ hmax

/-! ### Constraints -/

theorem violationsNom_eq_nil_iff (path obligatoire trop_court : String) (v : Option String) :
    violationsNom path obligatoire trop_court v = [] ↔ NomValide v := by
  unfold violationsNom NomValide
  cases v with
  | none => simp
  | some t =>
    simp only [Option.getD_some, Option.some.injEq]
    constructor
    · intro h
      split_ifs at h
      exact ⟨t, rfl, by omega, by omega⟩
    · rintro ⟨_, rfl, hmin, hmax⟩
      have hne : t ≠ "" := by
        rintro rfl
        exact absurd hmin (by decide)
      rw [if_neg hne, if_neg (by omega), if_neg (by omega)]

/-- A row stored from an entity without violation satisfies the constraints: its columns keep the
values as they are. -/
theorem conforme_of_violations {services : Services} {today : Date} {u : Utilisateur}
    {original : Option UtilisateurRow} {row : UtilisateurRow} (hrow : u.Complete original row)
    (hviol : u.violations services today = []) : Conforme services row := by
  unfold Utilisateur.violations at hviol
  simp only [List.append_eq_nil_iff, violationsNom_eq_nil_iff] at hviol
  obtain ⟨⟨⟨⟨⟨hemail, hnom⟩, hprenom⟩, -⟩, -⟩, htel⟩ := hviol
  have hnumTel : ∀ t, u.numTel = some t → NumTelValide t := by
    intro t ht
    rw [ht] at htel
    simp only at htel
    split_ifs at htel with hok
    exact hok
  refine ⟨?_, ?_, ?_, ?_⟩
  · obtain ⟨e, he, -⟩ := Option.map_eq_some_iff.mp hrow.email
    rw [he] at hemail
    simp only [Option.getD_some] at hemail
    split_ifs at hemail with hblank hstrict
    rw [hrow.email_eq he (services.email_last e hstrict)]
    exact ⟨hblank, hstrict⟩
  · rw [← hrow.nom, garde_map_of_length_le fun t => hnom.length_le]
    exact hnom
  · rw [← hrow.prenom, garde_map_of_length_le fun t => hprenom.length_le]
    exact hprenom
  · rw [← hrow.numTel, garde_map_of_length_le fun t ht => (hnumTel t ht).length_le]
    exact hnumTel

/-! ### `updateMe` -/

section UpdateMe

variable {services : Services} {s s' : Tables} {row : UtilisateurRow} {data : Json} {email : String}
  {adressePostale numTel : Option String}

/-- An accepted `updateMe` is saved. -/
theorem MajAcceptee.after_updateMe {user : ℕ}
    (h : MajAcceptee s user data row email adressePostale numTel)
    (hexec : exec (.updateUtilisateur row.id row { row.toEntity with
      email := some email, adressePostale := adressePostale, numTel := numTel }) s = some s') :
    (UserController.updateMe user data).after s = s' := by
  have hsuite : (UserController.updateMeSuite row data email).after s = s' := by
    unfold UserController.updateMeSuite
    simp only [h.decide.adressePostale, h.decide.numTel, save_bind]
    exact after_flush_singleton hexec _
  unfold UserController.updateMe
  simp only [read_bind, after_query, h.trouve]
  have hnull := h.decide.donnees
  have hemail := h.decide.email
  split
  · exact absurd rfl hnull
  split_ifs at hemail ⊢ with hset
  · -- the query finds no row with any of the strings
    obtain ⟨hparam, hfree⟩ := hemail
    have hnone : (s.utilisateur.rows.find? fun r =>
        (data.get "email").criteria.any (s.memeEmail r.email)).isSome = false := by
      rw [Option.isSome_eq_false_iff, Option.isNone_iff_eq_none, List.find?_eq_none]
      exact fun r hr => Bool.not_eq_true _ ▸ hfree r hr
    simp only [after_query, hnone, hparam]
    exact hsuite
  · rw [← hemail]
    exact hsuite

/-- The number is kept, or the one of the body. -/
theorem numTel_cases (h : UserController.Decide s row data email adressePostale numTel) :
    numTel = row.numTel ∧ (data.get "numTel").toStringParam = none ∨
      ∃ t, numTel = some t ∧ (data.get "numTel").toStringParam = some t := by
  have htel := h.numTel
  unfold UserController.champ at htel
  split_ifs at htel with hset
  · obtain ⟨t, ht, rfl⟩ := Option.map_eq_some_iff.mp htel
    exact Or.inr ⟨t, rfl, ht⟩
  · refine Or.inl ⟨(Option.some.inj htel).symm, ?_⟩
    cases hv : data.get "numTel" with
    | null => rfl
    | _ => simp [hv, Json.isset] at hset

/-- The email stored for a new one is valid exactly when what the column keeps of it is. -/
theorem emailValide_garde_iff {e e' : String} (he : EmailValide services e)
    (hfits : fits 180 (some e') = true) :
    EmailValide services (garde (couper 180) (some e) e') ↔
      EmailValide services (couper 180 e') := by
  by_cases h : e' = e
  · subst h
    rw [garde_self,
      couper_of_length_le (length_le_of_fits hfits (services.email_last e' he.2))]
  · rw [garde, if_neg fun heq => h (Option.some.inj heq)]

/-- The same for a number. -/
theorem numTelValide_garde_iff {ancien : Option String} {t : String}
    (hancien : ∀ t, ancien = some t → NumTelValide t) :
    (∀ t', garde (Option.map (couper 20)) (some ancien) (some t) = some t' → NumTelValide t') ↔
      NumTelValide (couper 20 t) := by
  by_cases h : some t = ancien
  · have ht := hancien t h.symm
    rw [← h, garde_self, couper_of_length_le ht.length_le]
    exact ⟨fun hstored => hstored t rfl, fun ht t' ht' => Option.some.inj ht' ▸ ht⟩
  · rw [garde, if_neg fun heq => h (Option.some.inj heq), Option.map_some]
    exact ⟨fun hstored => hstored _ rfl, fun ht t' ht' => Option.some.inj ht' ▸ ht⟩

/-- The row an `updateMe` leaves satisfies the constraints exactly when its body is valid. -/
theorem conforme_iff_corpsValide {new : UtilisateurRow} (hrow : Conforme services row)
    (hdecide : UserController.Decide s row data email adressePostale numTel)
    (hnew : Utilisateur.Complete { row.toEntity with
      email := some email, adressePostale := adressePostale, numTel := numTel } (some row) new) :
    Conforme services new ↔ CorpsValide services row data := by
  have hfits : fits 180 (some email) = true := ((Utilisateur.fits_iff _).mp hnew.fits).1
  have hnewEmail : garde (couper 180) (some row.email) email = new.email :=
    Option.some.inj hnew.email
  have hnewTel : garde (Option.map (couper 20)) (some row.numTel) numTel = new.numTel := hnew.numTel
  have hnewNom : row.nom = new.nom := (garde_self _ _).symm.trans hnew.nom
  have hnewPrenom : row.prenom = new.prenom := (garde_self _ _).symm.trans hnew.prenom
  have hemail := hdecide.email
  constructor
  · intro h
    refine ⟨fun t ht => ?_, fun hother e he => ?_⟩
    · rcases numTel_cases hdecide with ⟨-, hnone⟩ | ⟨t', rfl, hparam⟩
      · exact absurd (hnone.symm.trans ht) nofun
      · obtain rfl := Option.some.inj (hparam.symm.trans ht)
        exact (numTelValide_garde_iff hrow.numTel).mp (hnewTel ▸ h.numTel)
    · have hset : (data.get "email").isset = true := by
        cases hv : data.get "email" with
        | null => simp [hv, Json.toStringParam] at he
        | _ => rfl
      rw [if_pos (by simp [hset, hother])] at hemail
      obtain rfl := Option.some.inj (hemail.1.symm.trans he)
      exact (emailValide_garde_iff hrow.email hfits).mp (hnewEmail ▸ h.email)
  · intro h
    refine ⟨?_, hnewNom ▸ hrow.nom, hnewPrenom ▸ hrow.prenom, ?_⟩
    · rw [← hnewEmail]
      split_ifs at hemail with hset
      · rw [Bool.and_eq_true, Bool.not_eq_true'] at hset
        exact (emailValide_garde_iff hrow.email hfits).mpr (h.email hset.2 email hemail.1)
      · rw [hemail, garde_self]
        exact hrow.email
    · rw [← hnewTel]
      rcases numTel_cases hdecide with ⟨rfl, -⟩ | ⟨t', rfl, hparam⟩
      · rw [garde_self]
        exact hrow.numTel
      · exact (numTelValide_garde_iff hrow.numTel).mpr (h.numTel _ hparam)

end UpdateMe

/-! ### One request -/

variable (services : Services) {s : Tables}

/-- A request without an invalid body keeps the constraints. -/
theorem conformes_apres (hs : Conformes services s) (r : Requete)
    (hok : SansCorpsInvalide services s r) : Conformes services (r.apres services s) := by
  refine comptes_apres hs r fun ws s' hecrit hr hc row hrow => ?_
  cases hecrit with
  | register =>
    -- the column of the date of membership takes no null
    obtain ⟨new, hnew, -⟩ := exec_insertUtilisateur (commit_singleton hc)
    exact absurd hnew.dateAdhesion nofun
  | @updateMe user data old email adressePostale numTel hfind hdecide =>
    have hexec := commit_singleton hc
    have hvalide := hok old email adressePostale numTel ⟨hfind, hdecide, by rw [hexec]; rfl⟩
    obtain rfl := Table.key_of_find hfind
    obtain ⟨new, hnew, -, -, -, hmem⟩ := exec_updateUtilisateur hfind hexec
    rcases (hmem row).mp hrow with rfl | h
    · exact (conforme_iff_corpsValide (hs old (Table.mem_of_find hfind)) hdecide hnew).mpr hvalide
    · exact hs row h.1
  | @upgradePassword user newHashedPassword old hfind =>
    obtain ⟨new, hnew, -, -, -, hmem⟩ := exec_updateUtilisateur hfind (commit_singleton hc)
    rcases (hmem row).mp hrow with rfl | h
    · have hold := hs old (Table.mem_of_find hfind)
      have hnom : old.nom = row.nom := (garde_self _ _).symm.trans hnew.nom
      have hprenom : old.prenom = row.prenom := (garde_self _ _).symm.trans hnew.prenom
      have hnumTel : old.numTel = row.numTel := (garde_self _ _).symm.trans hnew.numTel
      exact ⟨hnew.email_kept rfl ▸ hold.email, hnom ▸ hold.nom, hprenom ▸ hold.prenom,
        hnumTel ▸ hold.numTel⟩
    · exact hs row h.1
  | utilisateurNew hroles hviol =>
    obtain ⟨new, hnew, -, -, -, hmem⟩ := exec_insertUtilisateur (commit_singleton hc)
    rcases (hmem row).mp hrow with rfl | h
    · exact conforme_of_violations hnew hviol
    · exact hs row h
  | utilisateurEdit hfind hroles hnull hviol =>
    obtain rfl := Table.key_of_find hfind
    obtain ⟨new, hnew, -, -, -, hmem⟩ := exec_updateUtilisateur hfind (commit_singleton hc)
    rcases (hmem row).mp hrow with rfl | h
    · exact conforme_of_violations hnew hviol
    · exact hs row h.1
  | utilisateurDelete =>
    rw [commit_utilisateurDelete hc] at hrow
    exact hs row (Table.mem_delete.mp hrow).1
  | _ => exact absurd rfl hr

/-- Where the constraints hold after a request, it has no invalid body. -/
theorem sansCorpsInvalide_of_conformes (hs : Conformes services s) (r : Requete)
    (h : Conformes services (r.apres services s)) : SansCorpsInvalide services s r := by
  cases r with
  | updateMe user data =>
    intro row email adressePostale numTel hmaj
    obtain ⟨s', hexec⟩ := Option.isSome_iff_exists.mp hmaj.enregistrable
    have hafter : (Requete.updateMe user data).apres services s = s' := hmaj.after_updateMe hexec
    obtain rfl := Table.key_of_find hmaj.trouve
    obtain ⟨new, hnew, -, -, -, hmem⟩ := exec_updateUtilisateur hmaj.trouve hexec
    have hold := hs row (Table.mem_of_find hmaj.trouve)
    refine (conforme_iff_corpsValide hold hmaj.decide hnew).mp (h new ?_)
    rw [hafter]
    exact (hmem new).mpr (Or.inl rfl)
  | _ => trivial

/-! ### Runs -/

/-- **The data of accounts.**  From an empty table of accounts: in every state of a run every row
satisfies the constraints of the entity exactly when no request of the run is an accepted
`updateMe` with an invalid email or number. -/
theorem account_data_valid_iff (s : Tables) (hs : s.utilisateur.rows = []) (rs : List Requete) :
    Along (servir services) (fun s r => Conformes services (r.apres services s)) s rs ↔
      Along (servir services) (SansCorpsInvalide services) s rs := by
  refine along_iff (I := Conformes services) _ (fun s r hI => ?_) (fun _ _ _ h => h) rs s ?_
  · exact ⟨sansCorpsInvalide_of_conformes services hI r, conformes_apres services hI r⟩
  · intro row hrow
    rw [hs] at hrow
    cases hrow

/-- Without accounts, a librarian enters a member, who then gives a phone number. -/
theorem account_data_valid_new_member :
    let s := { Exemple.tables .empty .empty with utilisateur := .empty }
    Along (servir Exemple.services)
      (fun s r => Conformes Exemple.services (r.apres Exemple.services s)) s
      [.utilisateurNew ["ROLE_BIBLIO"] (Exemple.fiche "lucy@articles.fr" (some "password")
        (by decide)) 0 1, .updateMe 1 (.obj [("numTel", .str "06 12 34 56 78")])] := by
  refine (account_data_valid_iff Exemple.services _ rfl _).mpr ⟨trivial, ?_, trivial⟩
  intro row email adressePostale numTel _
  refine ⟨fun t ht => ?_, fun _ e he => ?_⟩
  · obtain rfl : "06 12 34 56 78" = t := Option.some.inj ht
    exact Or.inr (by decide)
  · exact absurd he nofun

/-- The same member gives the number `abc`: it is stored. -/
theorem not_account_data_valid_update :
    let s := { Exemple.tables .empty .empty with utilisateur := .empty }
    let rs := [.utilisateurNew ["ROLE_BIBLIO"] (Exemple.fiche "lucy@articles.fr" (some "password")
      (by decide)) 0 1, .updateMe 1 (.obj [("numTel", .str "abc")])]
    ((executer Exemple.services s rs).utilisateur.find 1).map UtilisateurRow.numTel
        = some (some "abc") ∧
      ¬ Along (servir Exemple.services)
        (fun s r => Conformes Exemple.services (r.apres Exemple.services s)) s rs := by
  intro s rs
  have htel : ((executer Exemple.services s rs).utilisateur.find 1).map UtilisateurRow.numTel
      = some (some "abc") := by decide
  refine ⟨htel, fun h => ?_⟩
  obtain ⟨row, hrow, hnum⟩ := Option.map_eq_some_iff.mp htel
  rcases (h.2.1 row (Table.mem_of_find hrow)).numTel "abc" hnum with hvide | hvalide
  · exact absurd hvide (by decide)
  · exact absurd hvalide (by decide)

end Biblio
