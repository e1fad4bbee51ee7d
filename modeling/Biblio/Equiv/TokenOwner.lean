import Biblio.Equiv.Accounts
import Biblio.Sso

/-!
# Who a token stands for

A token names its account by an email, and an email can move from one account to another.  What
holds of every run: emails stay unique, so an accepted token stands for the one account that has
its email now (`EmailsUniques`); and this is the account it was issued to unless, since then, a
request has given the email to another account while nobody had it (`SansReprise`).

`ChangeCompte` says what a request can do to the accounts.
-/

namespace Biblio

open Prog UtilisateurCrudController

/-! ### Emails -/

/-- No two accounts have the same email: the unique key of the column. -/
def EmailsUniques (s : Tables) : Prop :=
  ∀ r ∈ s.utilisateur.rows, ∀ r' ∈ s.utilisateur.rows, s.memeEmail r.email r'.email = true → r = r'

theorem memeEmail_comm (s : Tables) (e e' : String) : s.memeEmail e e' = s.memeEmail e' e := by
  unfold Tables.memeEmail
  exact Bool.beq_comm

theorem memeEmail_trans {s : Tables} {e e' e'' : String} (h : s.memeEmail e e' = true)
    (h' : s.memeEmail e' e'' = true) : s.memeEmail e e'' = true := by
  simp only [Tables.memeEmail, beq_iff_eq] at h h' ⊢
  exact h.trans h'

theorem emailLibre_iff (s : Tables) (id : ℕ) (email : String) :
    s.emailLibre id email = true ↔
      ∀ r ∈ s.utilisateur.rows, r.id ≠ id → s.memeEmail r.email email = false := by
  rw [Tables.emailLibre, beq_iff_eq, Table.others, Table.count_eq_zero_iff]
  refine forall₂_congr fun r _ => ?_
  show (s.memeEmail r.email email && r.id != id) = false ↔ _
  cases s.memeEmail r.email email <;> simp

/-! ### What a request does to the accounts -/

/-- The accounts are left alone, joined by a new one, or one of them is replaced or deleted. -/
inductive ChangeCompte (s : Tables) (t : Table UtilisateurRow) : Prop
  | inchange (h : t = s.utilisateur)
  | cree (row : UtilisateurRow) (hid : row.id = s.utilisateur.next)
      (hlibre : s.emailLibre 0 row.email = true)
      (hnext : t.next = s.utilisateur.next + 1)
      (hmem : ∀ x, x ∈ t.rows ↔ x = row ∨ x ∈ s.utilisateur.rows)
  | remplace (old row : UtilisateurRow) (hold : old ∈ s.utilisateur.rows)
      (hid : row.id = old.id)
      (hemail : row.email = old.email ∨ s.emailLibre old.id row.email = true)
      (hnext : t.next = s.utilisateur.next)
      (hmem : ∀ x, x ∈ t.rows ↔ x = row ∨ x ∈ s.utilisateur.rows ∧ x.id ≠ old.id)
  | supprime (id : ℕ) (h : t = s.utilisateur.delete id)

/-- **Accounts.**  What a request served alone does to them. -/
theorem changeCompte_apres (services : Services) (s : Tables) (r : Requete) :
    ChangeCompte s (r.apres services s).utilisateur := by
  apply apres_induct (P := fun s' => ChangeCompte s s'.utilisateur) services s r (.inchange rfl)
  intro ws s' hecrit hc
  by_cases hr : r.surComptes = false
  · exact .inchange (hecrit.utilisateur_eq hr hc)
  cases hecrit with
  | register | utilisateurNew =>
    obtain ⟨row, -, hid, hlibre, hnext, hmem⟩ := exec_insertUtilisateur (commit_singleton hc)
    exact .cree row hid hlibre hnext hmem
  | updateMe hfind | upgradePassword hfind | utilisateurEdit hfind =>
    obtain rfl := Table.key_of_find hfind
    obtain ⟨row, -, hid, hlibre, hnext, hmem⟩ :=
      exec_updateUtilisateur hfind (commit_singleton hc)
    exact .remplace _ row (Table.mem_of_find hfind) hid hlibre hnext hmem
  | utilisateurDelete hadmin => exact .supprime _ (commit_utilisateurDelete hc)
  | _ => exact absurd rfl hr

theorem emailKey_apres (services : Services) (s : Tables) (r : Requete) :
    (r.apres services s).emailKey = s.emailKey :=
  apres_induct (P := fun s' => s'.emailKey = s.emailKey) services s r rfl
    fun _ _ _ hc => commit_emailKey_eq hc

theorem memeEmail_apres (services : Services) (s : Tables) (r : Requete) (e e' : String) :
    (r.apres services s).memeEmail e e' = s.memeEmail e e' := by
  unfold Tables.memeEmail
  rw [emailKey_apres]

/-! ### Unique emails -/

/-- **Unique emails.**  No request gives two accounts the same email. -/
theorem emailsUniques_apres (services : Services) {s : Tables} (hs : EmailsUniques s)
    (r : Requete) : EmailsUniques (r.apres services s) := by
  intro x hx y hy hxy
  rw [memeEmail_apres] at hxy
  cases changeCompte_apres services s r with
  | inchange h =>
    rw [h] at hx hy
    exact hs x hx y hy hxy
  | cree row hid hlibre hnext hmem =>
    -- no account had the email of the new one
    have hnew : ∀ z ∈ s.utilisateur.rows, s.memeEmail z.email row.email = false := fun z hz =>
      (emailLibre_iff s 0 _).mp hlibre z hz (Nat.ne_of_gt (s.utilisateur.pos z hz))
    rcases (hmem x).mp hx with rfl | hx <;> rcases (hmem y).mp hy with rfl | hy
    · rfl
    · rw [memeEmail_comm, hnew y hy] at hxy
      cases hxy
    · rw [hnew x hx] at hxy
      cases hxy
    · exact hs x hx y hy hxy
  | remplace old row hold hid hemail hnext hmem =>
    -- no account but the one replaced has the email of its replacement
    have hnew : ∀ z ∈ s.utilisateur.rows, z.id ≠ old.id →
        s.memeEmail z.email row.email = false := by
      intro z hz hne
      rcases hemail with h | hlibre
      · rw [h, ← Bool.not_eq_true]
        exact fun hmeme => hne (congrArg UtilisateurRow.id (hs z hz old hold hmeme))
      · exact (emailLibre_iff s _ _).mp hlibre z hz hne
    rcases (hmem x).mp hx with rfl | ⟨hx, hnx⟩ <;> rcases (hmem y).mp hy with rfl | ⟨hy, hny⟩
    · rfl
    · rw [memeEmail_comm, hnew y hy hny] at hxy
      cases hxy
    · rw [hnew x hx hnx] at hxy
      cases hxy
    · exact hs x hx y hy hxy
  | supprime id h =>
    rw [h] at hx hy
    exact hs x (Table.mem_delete.mp hx).1 y (Table.mem_delete.mp hy).1 hxy

/-- `findOneBy` returns an account with the email. -/
theorem mem_of_findByEmail {s : Tables} {email : String} {a : UtilisateurRow}
    (h : s.findByEmail email = some a) :
    a ∈ s.utilisateur.rows ∧ s.memeEmail a.email email = true := by
  refine ⟨List.mem_of_find?_eq_some h, ?_⟩
  exact List.find?_some (p := fun r : UtilisateurRow => s.memeEmail r.email email) h

/-- With unique emails, `findOneBy` returns the account that has the email. -/
theorem findByEmail_eq_some {s : Tables} (hs : EmailsUniques s) {email : String}
    {a : UtilisateurRow} (h : s.findByEmail email = some a) :
    ∀ row ∈ s.utilisateur.rows, s.memeEmail row.email email = true ↔ row = a := by
  obtain ⟨ha, hmeme⟩ := mem_of_findByEmail h
  intro row hrow
  constructor
  · intro hrow'
    rw [memeEmail_comm] at hmeme
    exact hs row hrow a ha (memeEmail_trans hrow' hmeme)
  · rintro rfl
    exact hmeme

/-! ### The holder of an email -/

/-- Nobody but the account `u` has the email. -/
structure Detenu (s : Tables) (u : ℕ) (email : String) : Prop where
  lt_next : u < s.utilisateur.next
  id_eq : ∀ row ∈ s.utilisateur.rows, s.memeEmail row.email email = true → row.id = u

/-- A request does not give the email to an account other than `u` while nobody has it: if it is
free before the request, no other account has it after. -/
def SansReprise (services : Services) (email : String) (u : ℕ) (s : Tables) (r : Requete) : Prop :=
  (∀ row ∈ s.utilisateur.rows, s.memeEmail row.email email = false) →
    ∀ row ∈ (r.apres services s).utilisateur.rows, s.memeEmail row.email email = true → row.id = u

/-- **One request.**  An email that is not given away stays with its account. -/
theorem Detenu.apres (services : Services) {s : Tables} {u : ℕ} {email : String}
    (h : Detenu s u email) (r : Requete) (hok : SansReprise services email u s r) :
    Detenu (r.apres services s) u email := by
  have hlt := h.lt_next
  have hmeme := memeEmail_apres services s r
  have hchange := changeCompte_apres services s r
  refine ⟨?_, fun x hx hx' => ?_⟩
  · cases hchange with
    | inchange hsame | supprime id hsame =>
      rw [hsame]
      exact hlt
    | cree | remplace => omega
  rw [hmeme] at hx'
  by_cases hlibre : ∀ row ∈ s.utilisateur.rows, s.memeEmail row.email email = false
  · exact hok hlibre x hx hx'
  -- somebody has the email, the account `u`, and the unique key keeps it from all others
  simp only [not_forall, Bool.not_eq_false] at hlibre
  obtain ⟨z, hz, hz'⟩ := hlibre
  have hzx : s.memeEmail z.email x.email = true := by
    rw [memeEmail_comm] at hx'
    exact memeEmail_trans hz' hx'
  cases hchange with
  | inchange hsame => exact h.id_eq x (hsame ▸ hx) hx'
  | cree row hid hlibre hnext hmem =>
    rcases (hmem x).mp hx with rfl | hx
    · have hfree := (emailLibre_iff s 0 _).mp hlibre z hz (Nat.ne_of_gt (s.utilisateur.pos z hz))
      exact absurd (hzx.symm.trans hfree) (by decide)
    · exact h.id_eq x hx hx'
  | remplace old row hold hid hemail hnext hmem =>
    rcases (hmem x).mp hx with rfl | ⟨hx, -⟩
    · rw [hid]
      rcases hemail with hkept | hlibre
      · exact h.id_eq old hold (hkept ▸ hx')
      · by_contra hne
        have hfree := (emailLibre_iff s _ _).mp hlibre z hz fun hzid =>
          hne (hzid.symm.trans (h.id_eq z hz hz'))
        exact absurd (hzx.symm.trans hfree) (by decide)
    · exact h.id_eq x hx hx'
  | supprime id hsame =>
    rw [hsame] at hx
    exact h.id_eq x (Table.mem_delete.mp hx).1 hx'

/-! ### Runs -/

/-- An event does not give the email to an account other than `u` while nobody has it. -/
def Systeme.SansReprise (services : Services) (email : String) (u : ℕ) (σ : Systeme) :
    Evenement → Prop
  | .requete r => Biblio.SansReprise services email u σ.tables r
  | _ => True

theorem emailsUniques_step (services : Services) (σ : Systeme) (e : Evenement)
    (h : EmailsUniques σ.tables) : EmailsUniques (σ.step services e).tables := by
  cases e with
  | requete r => exact emailsUniques_apres services h r
  | _ => exact h

theorem emailsUniques_run (services : Services) {σ : Systeme} (h : EmailsUniques σ.tables)
    (es : List Evenement) : EmailsUniques (run (Systeme.step services) σ es).tables :=
  run_preserves (I := fun σ : Systeme => EmailsUniques σ.tables) _ (emailsUniques_step services)
    es σ h

theorem detenu_step (services : Services) {u : ℕ} {email : String} (σ : Systeme) (e : Evenement)
    (h : Detenu σ.tables u email) (hok : σ.SansReprise services email u e) :
    Detenu (σ.step services e).tables u email := by
  cases e with
  | requete r => exact h.apres services r hok
  | _ => exact h

/-- A token is issued to the account that has its email. -/
theorem detenu_of_emet {σ : Systeme} (hσ : EmailsUniques σ.tables) {e : Evenement} {u : ℕ}
    {j : Jeton} (h : σ.emet e = some (u, j)) : Detenu σ.tables u j.username := by
  obtain ⟨row, hrow, rfl, rfl⟩ : ∃ row ∈ σ.tables.utilisateur.rows, row.id = u ∧
      JWTTokenManager.create row σ.horloge = j := by
    cases e with
    | loginCheck email =>
      obtain ⟨row, hrow, heq⟩ := Option.map_eq_some_iff.mp h
      obtain ⟨rfl, rfl⟩ := Prod.mk.inj heq
      exact ⟨row, List.mem_of_find?_eq_some hrow, rfl, rfl⟩
    | toAngular user =>
      obtain ⟨row, hrow, heq⟩ := Option.map_eq_some_iff.mp h
      obtain ⟨rfl, rfl⟩ := Prod.mk.inj heq
      exact ⟨row, Table.mem_of_find hrow, rfl, rfl⟩
    | _ => cases h
  refine ⟨σ.tables.utilisateur.lt_next row hrow, fun x hx hx' => ?_⟩
  exact congrArg UtilisateurRow.id (hσ x hx row hrow hx')

/-- An accepted token stands for the account found by its email, on both ways in. -/
theorem findByEmail_of_accepted {s : Tables} {now : Instant} {j : Jeton} {a : UtilisateurRow}
    (h : authentifierApi s now j = some a ∨ SsoController.toSymfony s now j = some a) :
    s.findByEmail j.username = some a := by
  rcases h with h | h
  · unfold authentifierApi JWTEncoder.decode at h
    split_ifs at h
    · exact h
    · cases h
  · unfold SsoController.toSymfony JWTEncoder.decode at h
    split at h
    · cases h
    · next payload hpayload =>
      split_ifs at hpayload
      obtain rfl := Option.some.inj hpayload
      split_ifs at h
      exact h

/-- **Tokens.**  In every run, whatever is issued, renamed, created, deleted and used: an accepted
token stands for the one account that has its email at that moment; and that is the account the
token was issued to, provided no request since its issue gave the email to another account while
nobody had it. -/
theorem token_owner (services : Services) (σ₀ : Systeme) (h₀ : EmailsUniques σ₀.tables)
    (es₁ es₂ : List Evenement) (e : Evenement) (u : ℕ) (j : Jeton)
    (hemet : (run (Systeme.step services) σ₀ es₁).emet e = some (u, j)) :
    let σ := run (Systeme.step services) σ₀ (es₁ ++ e :: es₂)
    ∀ a, (authentifierApi σ.tables σ.horloge j = some a ∨
        SsoController.toSymfony σ.tables σ.horloge j = some a) →
      (∀ row ∈ σ.tables.utilisateur.rows,
        σ.tables.memeEmail row.email j.username = true ↔ row = a) ∧
      (Along (Systeme.step services) (Systeme.SansReprise services j.username u)
        ((run (Systeme.step services) σ₀ es₁).step services e) es₂ → a.id = u) := by
  intro σ a haccepted
  have hfound := findByEmail_of_accepted haccepted
  have hunique : EmailsUniques σ.tables :=
    emailsUniques_run services h₀ _
  refine ⟨findByEmail_eq_some hunique hfound, fun hok => ?_⟩
  have hissue : Detenu ((run (Systeme.step services) σ₀ es₁).step services e).tables u
      j.username := by
    have hbefore : EmailsUniques (run (Systeme.step services) σ₀ es₁).tables :=
      emailsUniques_run services h₀ es₁
    -- issuing a token does not touch the accounts
    cases e with
    | requete r => cases hemet
    | _ => exact detenu_of_emet hbefore hemet
  have hend : Detenu σ.tables u j.username := by
    show Detenu (run (Systeme.step services) σ₀ (es₁ ++ e :: es₂)).tables u j.username
    rw [run_append]
    exact run_invariant (I := fun σ : Systeme => Detenu σ.tables u j.username) _
      (detenu_step services) es₂ _ hissue hok
  obtain ⟨ha, hmeme⟩ := mem_of_findByEmail hfound
  exact hend.id_eq a ha hmeme

/-- The emails of the small library are distinct. -/
theorem emailsUniques_exemple : EmailsUniques (Exemple.tables .empty .empty) := by
  unfold EmailsUniques
  decide

/-- Another member takes a new address: the token stands for the member it was issued to. -/
theorem token_owner_after_rename :
    let σ₀ : Systeme := ⟨Exemple.tables .empty .empty, 0, []⟩
    let es₂ := [Evenement.requete (.updateMe 6 (.obj [("email", .str "lucy@articles.fr")])),
      .attendre 60]
    let j : Jeton := ⟨"adherent0@articles.fr", tokenTtl⟩
    let σ := run (Systeme.step Exemple.services) σ₀ (.toAngular 5 :: es₂)
    authentifierApi σ.tables σ.horloge j
        = some (Exemple.compte 5 "adherent0@articles.fr" ["ROLE_USER"] "password") ∧
      ∀ a, authentifierApi σ.tables σ.horloge j = some a → a.id = 5 := by
  intro σ₀ es₂ j σ
  refine ⟨by decide, fun a ha => ?_⟩
  refine (token_owner Exemple.services σ₀ emailsUniques_exemple [] es₂ (.toAngular 5) 5 j
    (by decide) a (Or.inl ha)).2 ⟨?_, trivial, trivial⟩
  -- the address is that of the member all the time
  intro hlibre
  exact absurd (hlibre (Exemple.compte 5 "adherent0@articles.fr" ["ROLE_USER"] "password")
    (by decide)) (by decide)

/-- A member leaves his address, another one takes it: the token of the first, still valid, stands
for the second on both ways in. -/
theorem token_changes_owner :
    let σ₀ : Systeme := ⟨Exemple.tables .empty .empty, 0, []⟩
    let j : Jeton := ⟨"adherent0@articles.fr", tokenTtl⟩
    let σ := run (Systeme.step Exemple.services) σ₀
      [.toAngular 5, .requete (.updateMe 5 (.obj [("email", .str "lucy@articles.fr")])),
        .requete (.updateMe 6 (.obj [("email", .str "adherent0@articles.fr")])), .attendre 60]
    EmailsUniques σ₀.tables ∧ σ₀.emet (.toAngular 5) = some (5, j) ∧
      (authentifierApi σ.tables σ.horloge j).map UtilisateurRow.id = some 6 ∧
      (SsoController.toSymfony σ.tables σ.horloge j).map UtilisateurRow.id = some 6 :=
  ⟨emailsUniques_exemple, by decide, by decide, by decide⟩

end Biblio
