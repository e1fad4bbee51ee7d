import Biblio.Client
import Biblio.Store.Run

/-!
# Answers and the client session

What the session of the client shows, and what the answers of older requests do to it.  An answer
is applied to the session whatever token it was asked under, so the results are about runs whose
answers all meet `ReponseSaine`:

* `stale_answers_spare_session`: then a session with nothing in flight shows the account of its
  token, a session without a token shows nothing, and an answer to a request of another token
  neither removes the token nor logs the session out;
* `stale_answers_reach_session`: at the start of a page, with the token of the url and the stored
  one both in flight, either order of the two answers may give the wrong account, and a refusal
  of the stored token logs the new session out.

The invariant, `Session.AJourOuEnVol`: the session shows the account of its token, or the
`/user/me` of that token is still in flight.
-/

namespace Biblio

variable {compteDe : Token → Option Compte} {payloadRoles : Token → Option (List String)}

namespace Session

/-- The session shows the account of the token `t`. -/
def Montre (compteDe : Token → Option Compte) (s : Session) (t : Token) : Prop :=
  compteDe t = some ⟨s.userEmail, s.userRoles⟩

/-- The session shows no account. -/
def Vide (s : Session) : Prop := s.userEmail = "" ∧ s.userRoles = []

/-- With nothing in flight a session with a token shows its account; one without shows none. -/
structure AJour (compteDe : Token → Option Compte) (s : Session) : Prop where
  montre : ∀ t, s.enVol = [] → s.jwtToken = some t → s.Montre compteDe t
  vide : s.jwtToken = none → s.Vide

/-- The request whose answer a step brings. -/
def repondu (s : Session) : Pas → Option Envoi
  | .succes i => s.enVol[i]?
  | .erreur i _ => s.enVol[i]?
  | _ => none

/-- If a step brings the answer to a request that was not sent under the current token, it neither
removes this token nor logs the session out. -/
def Epargnee (compteDe : Token → Option Compte) (payloadRoles : Token → Option (List String))
    (s : Session) (p : Pas) : Prop :=
  ∀ e t, s.repondu p = some e → s.jwtToken = some t → e.token ≠ some t →
    (s.step compteDe payloadRoles p).jwtToken = some t ∧
      (s.step compteDe payloadRoles p).isLoggedIn = s.isLoggedIn

/-- The condition on the answers.  An account comes from `/user/me` only for the stored token, or
for one of the same account, or before the answer to another request of the stored token.  An
error of `/user/me` comes only for the stored token, or when none is stored.  A component gets a
401 only when no token is stored, or for the stored token before the session shows anything. -/
def ReponseSaine (compteDe : Token → Option Compte) (s : Session) : Pas → Prop
  | .succes i => ∀ t', s.enVol[i]? = some ⟨.loadUserInfo, some t'⟩ → compteDe t' ≠ none →
      ∃ t, s.jwtToken = some t ∧
        (compteDe t' = compteDe t ∨ ⟨.loadUserInfo, some t⟩ ∈ s.enVol.eraseIdx i)
  | .erreur i status => ∀ e, s.enVol[i]? = some e →
      match e.appel with
      | .loadUserInfo => s.jwtToken = none ∨ s.jwtToken = e.token
      | .login => True
      | .composant => status = 401 → s.jwtToken = none ∨ s.jwtToken = e.token ∧ s.Vide
  | _ => True

/-- The invariant. -/
structure AJourOuEnVol (compteDe : Token → Option Compte) (s : Session) : Prop where
  montre : ∀ t, s.jwtToken = some t →
    s.Montre compteDe t ∨ ⟨.loadUserInfo, some t⟩ ∈ s.enVol
  vide : s.jwtToken = none → s.Vide

theorem AJourOuEnVol.aJour {s : Session} (h : s.AJourOuEnVol compteDe) : s.AJour compteDe where
  montre t henVol ht := by
    rcases h.montre t ht with hmontre | hmem
    · exact hmontre
    · rw [henVol] at hmem
      cases hmem
  vide := h.vide

end Session

/-! ### The steps that send -/

open Session

theorem aJourOuEnVol_constructor (jwtToken : Option Token) :
    (AuthService.constructor jwtToken).AJourOuEnVol compteDe := by
  cases jwtToken with
  | none => exact ⟨nofun, fun _ => ⟨rfl, rfl⟩⟩
  | some t =>
    refine ⟨fun t' ht => .inr ?_, nofun⟩
    obtain rfl : t = t' := Option.some.inj ht
    exact List.mem_singleton_self _

theorem aJourOuEnVol_localLogout (s : Session) :
    (AuthService.localLogout s).AJourOuEnVol compteDe :=
  ⟨nofun, fun _ => ⟨rfl, rfl⟩⟩

theorem aJourOuEnVol_handleLoginSuccess (s : Session) (t : Token) :
    (AuthService.handleLoginSuccess payloadRoles s t).AJourOuEnVol compteDe := by
  unfold AuthService.handleLoginSuccess AuthService.loadUserInfo authInterceptor.envoyer
  -- the roles of the payload may be those of no account: what counts is the request just sent
  split
  all_goals
    refine ⟨fun t' ht => .inr ?_, nofun⟩
    obtain rfl : t = t' := Option.some.inj ht
    exact List.mem_append_right _ (List.mem_singleton_self _)

namespace Session.AJourOuEnVol

variable {s : Session}

theorem app (h : s.AJourOuEnVol compteDe) (ssoToken : Option Token) (action : Option String) :
    (App.constructor payloadRoles s ssoToken action).AJourOuEnVol compteDe := by
  unfold App.constructor
  split
  · exact aJourOuEnVol_handleLoginSuccess _ _
  · split
    · exact aJourOuEnVol_localLogout _
    · exact h

theorem envoyer (h : s.AJourOuEnVol compteDe) (a : AppelHttp) :
    (authInterceptor.envoyer s a).AJourOuEnVol compteDe where
  montre t ht := (h.montre t ht).imp_right (List.mem_append_left _)
  vide := h.vide

/-! ### The answers -/

/-- An answer to another request leaves the invariant as it is. -/
theorem recu (h : s.AJourOuEnVol compteDe) {i : ℕ} {e : Envoi} (he : s.enVol[i]? = some e)
    (hne : e.appel ≠ .loadUserInfo) : (s.recu i).AJourOuEnVol compteDe where
  montre t ht := by
    refine (h.montre t ht).imp_right fun hmem => ?_
    obtain ⟨j, hj⟩ := List.mem_iff_getElem?.mp hmem
    refine List.mem_eraseIdx_iff_getElem?.mpr ⟨j, ?_, hj⟩
    rintro rfl
    obtain rfl := Option.some.inj (he.symm.trans hj)
    exact hne rfl
  vide := h.vide

/-- A session without a token, which shows nothing. -/
theorem of_vide (htoken : s.jwtToken = none) (hvide : s.Vide) : s.AJourOuEnVol compteDe :=
  ⟨fun t ht => by simp [htoken] at ht, fun _ => hvide⟩

theorem succes (h : s.AJourOuEnVol compteDe) (i : ℕ)
    (hsaine : ReponseSaine compteDe s (.succes i)) :
    (s.succes compteDe i).AJourOuEnVol compteDe := by
  unfold Session.succes
  split
  case h_1 token hi =>
    cases huser : token.bind compteDe with
    | none => exact h
    | some user =>
      obtain ⟨t', rfl, ht'⟩ := Option.bind_eq_some_iff.mp huser
      obtain ⟨t, ht, hshown⟩ := hsaine t' hi (by simp [ht'])
      have hstored : (AuthService.loadUserInfo.next (s.recu i) user).jwtToken = some t := ht
      refine ⟨fun t₁ ht₁ => ?_, fun hnone => by simp [hstored] at hnone⟩
      obtain rfl : t = t₁ := Option.some.inj (hstored.symm.trans ht₁)
      refine hshown.imp (fun heq => ?_) id
      rw [Montre, ← heq]
      exact ht'
  case h_2 _ hi => exact h.recu hi nofun
  case h_3 _ hi => exact h.recu hi nofun
  case h_4 => exact h

theorem erreur (h : s.AJourOuEnVol compteDe) (i status : ℕ)
    (hsaine : ReponseSaine compteDe s (.erreur i status)) :
    (s.erreur i status).AJourOuEnVol compteDe := by
  unfold Session.erreur
  split
  case h_1 => exact aJourOuEnVol_localLogout _
  case h_2 _ hi =>
    rw [authInterceptor.error, if_neg (by simp)]
    exact h.recu hi nofun
  case h_3 token hi =>
    unfold authInterceptor.error
    split
    case isTrue h401 =>
      -- the token goes, the signals stay: they must have been empty
      rcases hsaine _ hi h401.1 with hnone | ⟨-, hvide⟩
      · exact of_vide rfl (h.vide hnone)
      · exact of_vide rfl hvide
    case isFalse => exact h.recu hi nofun
  case h_4 => exact h

/-- **Step.** -/
theorem step (h : s.AJourOuEnVol compteDe) (p : Pas) (hsaine : ReponseSaine compteDe s p) :
    (s.step compteDe payloadRoles p).AJourOuEnVol compteDe := by
  cases p with
  | page => exact aJourOuEnVol_constructor _
  | app ssoToken action => exact h.app ssoToken action
  | handleLoginSuccess t => exact aJourOuEnVol_handleLoginSuccess s t
  | localLogout => exact aJourOuEnVol_localLogout s
  | logout => exact aJourOuEnVol_localLogout s
  | login => exact h.envoyer .login
  | composant => exact h.envoyer .composant
  | succes i => exact h.succes i hsaine
  | erreur i status => exact h.erreur i status hsaine

end Session.AJourOuEnVol

/-! ### Sessions that are not touched -/

theorem succes_jwtToken (s : Session) (i : ℕ) :
    (s.succes compteDe i).jwtToken = s.jwtToken := by
  unfold Session.succes
  split
  · split <;> rfl
  all_goals rfl

theorem succes_isLoggedIn (s : Session) (i : ℕ) :
    (s.succes compteDe i).isLoggedIn = s.isLoggedIn := by
  unfold Session.succes
  split
  · split <;> rfl
  all_goals rfl

/-- An error for a request of another token, where it is admitted, finds no token to remove. -/
theorem erreur_of_ne {s : Session} {i status : ℕ} {e : Envoi} {t : Token}
    (hsaine : ReponseSaine compteDe s (.erreur i status)) (he : s.enVol[i]? = some e)
    (ht : s.jwtToken = some t) (hne : e.token ≠ some t) : s.erreur i status = s.recu i := by
  have hcas := hsaine e he
  obtain ⟨a, token⟩ := e
  have hnone : s.jwtToken ≠ none := by simp [ht]
  have htoken : s.jwtToken ≠ token := fun heq => hne (heq ▸ ht)
  unfold Session.erreur authInterceptor.error
  rw [he]
  cases a with
  | loadUserInfo => exact absurd hcas (not_or.mpr ⟨hnone, htoken⟩)
  | login => exact if_neg (by simp)
  | composant =>
    refine if_neg fun h401 => ?_
    rcases hcas h401.1 with h | h
    · exact hnone h
    · exact htoken h.1

theorem epargnee_of_reponseSaine (s : Session) (p : Pas) (hsaine : ReponseSaine compteDe s p) :
    s.Epargnee compteDe payloadRoles p := by
  intro e t he ht hne
  cases p with
  | succes i => exact ⟨(succes_jwtToken s i).trans ht, succes_isLoggedIn s i⟩
  | erreur i status =>
    have hrecu : s.step compteDe payloadRoles (.erreur i status) = s.recu i :=
      erreur_of_ne hsaine he ht hne
    rw [hrecu]
    exact ⟨ht, rfl⟩
  | _ => cases he

/-- **Answers and the session.**  Along every run of the client whose answers meet `ReponseSaine`:
with nothing in flight the session shows the account of the stored token, without a token it
shows nothing, and no answer to a request of another token removes the token or logs the session
out. -/
theorem stale_answers_spare_session (compteDe : Token → Option Compte)
    (payloadRoles : Token → Option (List String)) (jwtToken : Option Token) (pas : List Pas)
    (hsaine : Along (Session.step compteDe payloadRoles) (ReponseSaine compteDe)
      (AuthService.constructor jwtToken) pas) :
    (run (Session.step compteDe payloadRoles) (AuthService.constructor jwtToken) pas).AJour
        compteDe ∧
      Along (Session.step compteDe payloadRoles) (Epargnee compteDe payloadRoles)
        (AuthService.constructor jwtToken) pas := by
  have hstart : (AuthService.constructor jwtToken).AJourOuEnVol compteDe :=
    aJourOuEnVol_constructor jwtToken
  have hstep : ∀ (s : Session) (p : Pas), s.AJourOuEnVol compteDe → ReponseSaine compteDe s p →
      (s.step compteDe payloadRoles p).AJourOuEnVol compteDe := fun _ p h hp => h.step p hp
  refine ⟨?_, ?_⟩
  · exact (run_invariant _ hstep pas _ hstart hsaine).aJour
  · exact Along.of_invariant _ hstep (fun s p _ hp => epargnee_of_reponseSaine s p hp) pas _
      hstart hsaine

/-- Two tokens, of a librarian and of a member. -/
def Exemple.jetonBiblio : Token := ⟨"h.biblio.s", by decide⟩

def Exemple.jetonMembre : Token := ⟨"h.membre.s", by decide⟩

def Exemple.biblio : Compte := ⟨"biblio@b.fr", ["ROLE_BIBLIO", "ROLE_USER"]⟩

def Exemple.membre : Compte := ⟨"membre@b.fr", ["ROLE_USER"]⟩

def Exemple.compteDuJeton (t : Token) : Option Compte :=
  if t = Exemple.jetonBiblio then some Exemple.biblio
  else if t = Exemple.jetonMembre then some Exemple.membre
  else none

def Exemple.rolesDuJeton (t : Token) : Option (List String) :=
  (Exemple.compteDuJeton t).map Compte.roles

/-- The librarian's token is stored and the page is opened with the member's: the stale account
comes first, the member's last. -/
theorem stale_answer_before_current :
    let s := run (Session.step Exemple.compteDuJeton Exemple.rolesDuJeton)
      (AuthService.constructor (some Exemple.jetonBiblio))
      [.app (some Exemple.jetonMembre) none, .succes 0, .succes 0]
    s.enVol = [] ∧ s.jwtToken = some Exemple.jetonMembre ∧
      s.AJour Exemple.compteDuJeton ∧ s.userEmail = "membre@b.fr" := by
  intro s
  have hspared := stale_answers_spare_session Exemple.compteDuJeton Exemple.rolesDuJeton
    (some Exemple.jetonBiblio) [.app (some Exemple.jetonMembre) none, .succes 0, .succes 0] ?_
  · exact ⟨by decide, by decide, hspared.1, by decide⟩
  refine ⟨trivial, ?_, ?_, trivial⟩
  · exact fun t' _ _ => ⟨Exemple.jetonMembre, by decide, .inr (by decide)⟩
  · intro t' ht' _
    have htag : some Exemple.jetonMembre = some t' := congrArg (Option.bind · Envoi.token) ht'
    obtain rfl := Option.some.inj htag
    exact ⟨Exemple.jetonMembre, by decide, .inl rfl⟩

/-- The librarian's token is stored and the page is opened with the member's.  If the stale
account comes last, the member's session shows the librarian's; if the stored token is refused,
the member is logged out; and a stale account is shown after a logout. -/
theorem stale_answers_reach_session :
    let page := AuthService.constructor (some Exemple.jetonBiblio)
    let step := Session.step Exemple.compteDuJeton Exemple.rolesDuJeton
    (let s := run step page [.app (some Exemple.jetonMembre) none, .succes 1, .succes 0];
      s.enVol = [] ∧ s.jwtToken = some Exemple.jetonMembre ∧
        ⟨s.userEmail, s.userRoles⟩ = Exemple.biblio ∧ ¬ s.AJour Exemple.compteDuJeton) ∧
    (let s := run step page [.app (some Exemple.jetonMembre) none, .succes 1];
      s.repondu (.erreur 0 401) = some ⟨.loadUserInfo, some Exemple.jetonBiblio⟩ ∧
        s.jwtToken = some Exemple.jetonMembre ∧ s.isLoggedIn = true ∧
        (step s (.erreur 0 401)).jwtToken = none ∧
        (step s (.erreur 0 401)).isLoggedIn = false) ∧
    (let s := run step page [.app none (some "logout"), .succes 0];
      s.jwtToken = none ∧ ⟨s.userEmail, s.userRoles⟩ = Exemple.biblio) := by
  refine ⟨⟨by decide, by decide, by decide, fun h => ?_⟩,
    ⟨by decide, by decide, by decide, by decide, by decide⟩, by decide, by decide⟩
  have hshown := h.montre Exemple.jetonMembre (by decide) (by decide)
  exact absurd hshown (by unfold Montre; decide)

end Biblio
