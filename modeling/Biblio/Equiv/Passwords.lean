import Biblio.Equiv.Accounts

/-!
# Stored passwords

The typed password and the stored hash share one property of `Utilisateur`, and the pages NEW and
EDIT decide by its truth value whether to hash it.  The false values of a form are null, for a
field left blank, and the string `"0"`: NEW then stores `"0"` as it stands and EDIT keeps the old
hash.  Away from accepted forms with that one password (`SansZero`), every stored password is an
output of the hasher in every state of a run, a blank field keeps the stored one, and any other
string is stored as its hash (`passwords_hashed`).
-/

namespace Biblio

open Prog UtilisateurCrudController

/-- An output of the password hasher. -/
def EstHash (services : Services) (p : String) : Prop :=
  ∃ plain sel, services.hashPassword plain sel = some p

/-- A hash does not end with a space, so that its column keeps all of it. -/
theorem EstHash.last {services : Services} {p : String} (h : EstHash services p) :
    p.toList.getLast? ≠ some ' ' := by
  obtain ⟨plain, sel, hhash⟩ := h
  exact services.hash_last plain sel p hhash

/-- Every stored password is an output of the hasher. -/
def MotsDePasseHaches (services : Services) (s : Tables) : Prop :=
  ∀ r ∈ s.utilisateur.rows, EstHash services r.password

/-- What the pages NEW and EDIT have to store: for a blank field, on EDIT, the password there was;
for a string, once the page reports it saved, the hash of that string. -/
def StockeExact (services : Services) (s : Tables) (r : Requete) : Prop :=
  match r with
  | .utilisateurNew _ form sel _ => ∀ plain, form.password = some plain →
      (r.handler services).answer s = .enregistre →
        ∃ row, (r.apres services s).utilisateur.find s.utilisateur.next = some row ∧
          services.hashPassword plain sel = some row.password
  | .utilisateurEdit _ entityId form sel _ =>
      (form.password = none → ∀ row, s.utilisateur.find entityId = some row →
        ∃ row', (r.apres services s).utilisateur.find entityId = some row' ∧
          row'.password = row.password) ∧
      ∀ plain, form.password = some plain → (r.handler services).answer s = .enregistre →
        ∃ row, (r.apres services s).utilisateur.find entityId = some row ∧
          services.hashPassword plain sel = some row.password
  | _ => True

/-- No accepted form of NEW or EDIT has the password `"0"`. -/
def SansZero (services : Services) (s : Tables) : Requete → Prop
  | .utilisateurNew acteur form _ today =>
      form.password = some "0" → ¬ NewAcceptee services s acteur form today
  | .utilisateurEdit acteur entityId form sel today => form.password = some "0" →
      ∀ row, s.utilisateur.find entityId = some row →
        ¬ EditAcceptee services s acteur form sel today row
  | _ => True

/-- The argument of `upgradePassword` is a hash: its caller is the login of the framework, which
hands it what the hasher returned. -/
def ArgumentHache (services : Services) : Requete → Prop
  | .upgradePassword _ newHashedPassword => EstHash services newHashedPassword
  | _ => True

/-! ### Truth values -/

/-- A submitted password that PHP takes for false is `"0"`. -/
theorem Form.password_eq_zero {form : Form} {plain : String} (hplain : form.password = some plain)
    (hfalse : truthy form.password = false) : plain = "0" := by
  have hne := form.password_ne
  rw [hplain] at hne hfalse
  by_contra hzero
  have hempty : plain ≠ "" := fun h => hne (congrArg some h)
  simp [truthy, hempty, hzero] at hfalse

/-! ### One request -/

variable {services : Services} {s : Tables}

/-- **One request.**  Stored passwords stay hashes. -/
theorem motsDePasseHaches_apres (hs : MotsDePasseHaches services s) (r : Requete)
    (harg : ArgumentHache services r) (hok : SansZero services s r) :
    MotsDePasseHaches services (r.apres services s) := by
  refine comptes_apres hs r fun ws s' hecrit hr hc row hrow => ?_
  cases hecrit with
  | register hemail hhash =>
    obtain ⟨new, hcomplete, -, -, -, hmem⟩ := exec_insertUtilisateur (commit_singleton hc)
    rcases (hmem row).mp hrow with rfl | h
    · rw [EstHash, hcomplete.password_eq rfl (services.hash_last _ _ _ hhash)]
      exact ⟨_, _, hhash⟩
    · exact hs row h
  | updateMe hfind =>
    obtain rfl := Table.key_of_find hfind
    obtain ⟨new, hcomplete, -, -, -, hmem⟩ := exec_updateUtilisateur hfind (commit_singleton hc)
    rcases (hmem row).mp hrow with rfl | h
    · -- the password is not among the fields written
      rw [EstHash, hcomplete.password_kept rfl]
      exact hs _ (Table.mem_of_find hfind)
    · exact hs row h.1
  | upgradePassword hfind =>
    obtain rfl := Table.key_of_find hfind
    obtain ⟨new, hcomplete, -, -, -, hmem⟩ := exec_updateUtilisateur hfind (commit_singleton hc)
    rcases (hmem row).mp hrow with rfl | h
    · rw [EstHash, hcomplete.password_eq rfl (EstHash.last harg)]
      exact harg
    · exact hs row h.1
  | @utilisateurNew acteur form sel today password hroles hviol hpassword =>
    have hexec := commit_singleton hc
    obtain ⟨new, hcomplete, -, -, -, hmem⟩ := exec_insertUtilisateur hexec
    rcases (hmem row).mp hrow with rfl | h
    · rcases hpassword with ⟨hfalse, rfl⟩ | ⟨plain, hash, -, -, hhash, rfl⟩
      · -- a false password that is stored is `"0"`, in a form that was accepted
        obtain ⟨plain, hplain, -⟩ := Option.map_eq_some_iff.mp hcomplete.password
        have hzero := Form.password_eq_zero hplain hfalse
        refine absurd ⟨by simpa using hroles, hviol, ?_⟩ (hok (hplain.trans (congrArg some hzero)))
        exact Option.isSome_iff_exists.mpr ⟨s', hexec⟩
      · rw [EstHash, hcomplete.password_eq rfl (services.hash_last _ _ _ hhash)]
        exact ⟨plain, sel, hhash⟩
    · exact hs row h
  | @utilisateurEdit acteur entityId form sel today old password hfind hroles hnull hviol
      hpassword =>
    obtain rfl := Table.key_of_find hfind
    obtain ⟨new, hcomplete, -, -, -, hmem⟩ := exec_updateUtilisateur hfind (commit_singleton hc)
    rcases (hmem row).mp hrow with rfl | h
    · rcases hpassword with ⟨-, rfl⟩ | ⟨plain, -, -, hhash⟩
      · -- an edition never stores what was typed: it keeps the old hash instead
        rw [EstHash, hcomplete.password_kept rfl]
        exact hs _ (Table.mem_of_find hfind)
      · rw [EstHash, hcomplete.password_eq rfl (services.hash_last _ _ _ hhash)]
        exact ⟨plain, sel, hhash⟩
    · exact hs row h.1
  | utilisateurDelete hadmin =>
    rw [commit_utilisateurDelete hc] at hrow
    exact hs row (Table.mem_delete.mp hrow).1
  | _ => exact absurd rfl hr

/-- The row an edition leaves has the id that was edited. -/
theorem find_of_mem_iff {t : Table UtilisateurRow} {row : UtilisateurRow} {id : ℕ}
    {rest : UtilisateurRow → Prop} (hid : row.id = id)
    (hmem : ∀ r, r ∈ t.rows ↔ r = row ∨ rest r) : t.find id = some row :=
  (t.find_eq_some_iff id row).mpr ⟨(hmem row).mpr (Or.inl rfl), hid⟩

/-- A saved NEW stores the hash of the password typed. -/
theorem hash_of_new {acteur : List String} {form : Form} {sel : ℕ} {today : Date} {plain : String}
    (hok : SansZero services s (.utilisateurNew acteur form sel today))
    (hplain : form.password = some plain) {ws : List Statement} {s' : Tables}
    (hecrit : Ecrit services s (.utilisateurNew acteur form sel today) ws)
    (hc : commit ws s = some s') : ∃ row, s'.utilisateur.find s.utilisateur.next = some row ∧
      services.hashPassword plain sel = some row.password := by
  cases hecrit with
  | @utilisateurNew _ _ _ _ password hroles hviol hpassword =>
    have hexec := commit_singleton hc
    obtain ⟨row, hcomplete, hid, -, -, hmem⟩ := exec_insertUtilisateur hexec
    refine ⟨row, find_of_mem_iff hid hmem, ?_⟩
    rcases hpassword with ⟨hfalse, rfl⟩ | ⟨plain', hash, hplain', -, hhash, rfl⟩
    · -- stored as typed: the string is `"0"`, and the form was accepted
      have hzero := Form.password_eq_zero hplain hfalse
      refine absurd ⟨by simpa using hroles, hviol, ?_⟩ (hok (hplain.trans (congrArg some hzero)))
      exact Option.isSome_iff_exists.mpr ⟨s', hexec⟩
    · obtain rfl := Option.some.inj (hplain.symm.trans hplain')
      rw [hcomplete.password_eq rfl (services.hash_last _ _ _ hhash)]
      exact hhash

/-- A saved EDIT stores the hash of the password typed. -/
theorem hash_of_edit {acteur : List String} {entityId : ℕ} {form : Form} {sel : ℕ} {today : Date}
    {plain : String} (hok : SansZero services s (.utilisateurEdit acteur entityId form sel today))
    (hplain : form.password = some plain) {ws : List Statement} {s' : Tables}
    (hecrit : Ecrit services s (.utilisateurEdit acteur entityId form sel today) ws)
    (hc : commit ws s = some s') : ∃ row, s'.utilisateur.find entityId = some row ∧
      services.hashPassword plain sel = some row.password := by
  cases hecrit with
  | @utilisateurEdit _ _ _ _ _ old password hfind hroles hnull hviol hpassword =>
    have hexec := commit_singleton hc
    obtain rfl := Table.key_of_find hfind
    obtain ⟨row, hcomplete, hid, -, -, hmem⟩ := exec_updateUtilisateur hfind hexec
    refine ⟨row, find_of_mem_iff hid hmem, ?_⟩
    rcases hpassword with ⟨hfalse, hkeep⟩ | ⟨plain', hplain', htrue, hhash⟩
    · -- taken for blank: the string is `"0"`, and the form was accepted
      have hzero := Form.password_eq_zero hplain hfalse
      refine absurd ?_ (hok (hplain.trans (congrArg some hzero)) old hfind)
      exact ⟨by simpa using hroles, hnull, hviol, password,
        motDePasse_eq_some services (Or.inl ⟨hfalse, hkeep⟩),
        Option.isSome_iff_exists.mpr ⟨s', hexec⟩⟩
    · obtain rfl := Option.some.inj (hplain.symm.trans hplain')
      rw [hcomplete.password_eq rfl (services.hash_last _ _ _ hhash)]
      exact hhash

/-- A blank field of EDIT keeps the stored password. -/
theorem password_of_blank_edit {acteur : List String} {entityId : ℕ} {form : Form} {sel : ℕ}
    {today : Date} (hblank : form.password = none) {old : UtilisateurRow}
    (hold : s.utilisateur.find entityId = some old) :
    ∃ row, ((Requete.utilisateurEdit acteur entityId form sel today).apres services
      s).utilisateur.find entityId = some row ∧ row.password = old.password := by
  apply apres_induct (P := fun s' => ∃ row, s'.utilisateur.find entityId = some row ∧
    row.password = old.password) services s _ ⟨old, hold, rfl⟩
  intro ws s' hecrit hc
  cases hecrit with
  | utilisateurEdit hfind hroles hnull hviol hpassword =>
    obtain rfl := Option.some.inj (hold.symm.trans hfind)
    obtain rfl := Table.key_of_find hfind
    obtain ⟨row, hcomplete, hid, -, -, hmem⟩ := exec_updateUtilisateur hfind (commit_singleton hc)
    refine ⟨row, find_of_mem_iff hid hmem, ?_⟩
    rcases hpassword with ⟨-, rfl⟩ | ⟨plain, hplain, -, -⟩
    · exact hcomplete.password_kept rfl
    · rw [hblank] at hplain
      cases hplain

/-- **One request.**  What NEW and EDIT store is what the form asked for. -/
theorem stockeExact_of_sansZero (r : Requete) (hok : SansZero services s r) :
    StockeExact services s r := by
  cases r with
  | utilisateurNew acteur form sel today =>
    intro plain hplain hsaved
    obtain ⟨ws, hecrit, hc⟩ := exists_commit_of_enregistre services s hsaved
    exact hash_of_new hok hplain hecrit hc
  | utilisateurEdit acteur entityId form sel today =>
    refine ⟨fun hblank old hold => password_of_blank_edit hblank hold, ?_⟩
    intro plain hplain hsaved
    obtain ⟨ws, hecrit, hc⟩ := exists_commit_of_enregistre services s hsaved
    exact hash_of_edit hok hplain hecrit hc
  | _ => trivial

/-! ### Runs -/

/-- **Stored passwords.**  Take a run from tables whose passwords are hashes, in which
`upgradePassword` is called with hashes and no accepted form of NEW or EDIT has the password
`"0"`.  Every password stored at its end is a hash, and every EDIT and NEW along it stores what its
form asks for. -/
theorem passwords_hashed (services : Services) (s : Tables) (rs : List Requete)
    (hs : MotsDePasseHaches services s) (harg : ∀ r ∈ rs, ArgumentHache services r)
    (hok : Along (servir services) (SansZero services) s rs) :
    MotsDePasseHaches services (executer services s rs) ∧
      Along (servir services) (StockeExact services) s rs := by
  induction rs generalizing s with
  | nil => exact ⟨hs, trivial⟩
  | cons r rs ih =>
    obtain ⟨hr, hrs⟩ := hok
    have hstep := motsDePasseHaches_apres hs r (harg r (List.mem_cons_self ..)) hr
    obtain ⟨hend, halong⟩ := ih (r.apres services s) hstep
      (fun r' hr' => harg r' (List.mem_cons_of_mem _ hr')) hrs
    exact ⟨hend, stockeExact_of_sansZero r hr, halong⟩

/-- The passwords of the small library are hashes. -/
theorem motsDePasseHaches_exemple :
    MotsDePasseHaches Exemple.services (Exemple.tables .empty .empty) := by
  intro r hr
  simp only [Exemple.tables, List.mem_cons, List.not_mem_nil, or_false] at hr
  rcases hr with rfl | rfl | rfl | rfl
  · exact ⟨"admin", 0, rfl⟩
  · exact ⟨"biblio", 0, rfl⟩
  · exact ⟨"password", 0, rfl⟩
  · exact ⟨"password", 0, rfl⟩

/-- An account is created with the password `biblio`, and a member's is edited with the field left
blank. -/
theorem passwords_hashed_new_then_edit :
    let rs : List Requete := [.utilisateurNew ["ROLE_ADMIN"]
        (Exemple.fiche "lucy@articles.fr" (some "biblio") (by decide)) 0 1,
      .utilisateurEdit ["ROLE_ADMIN"] 5 (Exemple.fiche "adherent0@articles.fr" none nofun) 0 1]
    MotsDePasseHaches Exemple.services
        (executer Exemple.services (Exemple.tables .empty .empty) rs) ∧
      Along (servir Exemple.services) (StockeExact Exemple.services)
        (Exemple.tables .empty .empty) rs := by
  refine passwords_hashed Exemple.services _ _ motsDePasseHaches_exemple ?_ ⟨?_, ?_, trivial⟩
  · intro r hr
    simp only [List.mem_cons, List.not_mem_nil, or_false] at hr
    rcases hr with rfl | rfl
    · trivial
    · trivial
  · exact fun h => absurd h (by decide)
  · exact fun h => absurd h (by decide)

/-- The hasher of the small library does not return `"0"`. -/
theorem not_estHash_zero : ¬ EstHash Exemple.services "0" := by
  rintro ⟨plain, sel, h⟩
  simp only [Exemple.services, Exemple.hashPassword] at h
  split_ifs at h <;> exact absurd h (by decide)

/-- An account created with the password `0` has it stored in clear. -/
theorem not_motsDePasseHaches_new_zero :
    ¬ MotsDePasseHaches Exemple.services
      (executer Exemple.services (Exemple.tables .empty .empty) [.utilisateurNew ["ROLE_ADMIN"]
        (Exemple.fiche "lucy@articles.fr" (some "0") (by decide)) 0 1]) := by
  intro h
  have hrow : ({ Exemple.compte 7 "lucy@articles.fr" ["ROLE_USER"] "" with password := "0" }) ∈
      (executer Exemple.services (Exemple.tables .empty .empty) [.utilisateurNew ["ROLE_ADMIN"]
        (Exemple.fiche "lucy@articles.fr" (some "0") (by decide)) 0 1]).utilisateur.rows := by
    decide
  exact not_estHash_zero (h _ hrow)

end Biblio
