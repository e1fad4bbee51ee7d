import Biblio.Client
import Biblio.Store.Run

/-!
# The logged-in flag and the stored token

The client keeps its session twice, as the signal `isLoggedIn` and as the token in `localStorage`;
`authGuard` looks at the first, `authInterceptor` at the second.  Every function of `AuthService`
writes both.  The interceptor alone does not: on a 401 it removes the token, and only the
subscriber of `loadUserInfo` goes on to `logout`.

So the two agree in every state of a run exactly when no component gets a 401 while a token is
stored (`login_flag_agrees_iff`).  One step is `accord_step_iff`.
-/

namespace Biblio

variable {compteDe : Token → Option Compte} {payloadRoles : Token → Option (List String)}

namespace Session

/-- The flag is set exactly when a token is stored. -/
def Accord (s : Session) : Prop := s.isLoggedIn = true ↔ s.jwtToken ≠ none

/-- Every request sent now carries a token. -/
def PorteJeton (s : Session) : Prop :=
  ∀ a, ∃ t, (authInterceptor.envoyer s a).enVol.getLast? = some ⟨a, some t⟩

/-- The guard admits exactly the sessions whose requests carry a token. -/
def GardeFidele (s : Session) : Prop := authGuard s = true ↔ s.PorteJeton

/-- A component does not get a 401 while a token is stored. -/
def SansRefus (s : Session) : Pas → Prop
  | .erreur i status => status = 401 → ∀ token, s.enVol[i]? = some ⟨.composant, token⟩ →
      s.jwtToken = none
  | _ => True

theorem porteJeton_iff (s : Session) : s.PorteJeton ↔ s.jwtToken ≠ none := by
  have hlast : ∀ a, (authInterceptor.envoyer s a).enVol.getLast? = some ⟨a, s.jwtToken⟩ :=
    fun a => List.getLast?_concat
  constructor
  · intro h hnone
    obtain ⟨t, ht⟩ := h .login
    rw [hlast, hnone] at ht
    cases ht
  · intro hne a
    obtain ⟨t, ht⟩ := Option.ne_none_iff_exists'.mp hne
    exact ⟨t, by rw [hlast, ht]⟩

/-- The guard is faithful where the flag and the token agree. -/
theorem gardeFidele_iff (s : Session) : s.GardeFidele ↔ s.Accord := by
  unfold GardeFidele Accord
  rw [porteJeton_iff, authGuard]

end Session

open Session

/-! ### One step -/

theorem accord_constructor (jwtToken : Option Token) :
    (AuthService.constructor jwtToken).Accord := by
  cases jwtToken with
  | none => exact ⟨nofun, fun h => absurd rfl h⟩
  | some t => exact ⟨fun _ => Option.some_ne_none t, fun _ => rfl⟩

theorem accord_localLogout (s : Session) : (AuthService.localLogout s).Accord :=
  ⟨nofun, fun h => absurd rfl h⟩

theorem accord_handleLoginSuccess (s : Session) (t : Token) :
    (AuthService.handleLoginSuccess payloadRoles s t).Accord := by
  unfold AuthService.handleLoginSuccess
  split
  all_goals exact ⟨fun _ => Option.some_ne_none t, fun _ => rfl⟩

theorem Session.Accord.app {s : Session} (h : s.Accord) (ssoToken : Option Token)
    (action : Option String) : (App.constructor payloadRoles s ssoToken action).Accord := by
  unfold App.constructor
  split
  · exact accord_handleLoginSuccess _ _
  · split
    · exact accord_localLogout _
    · exact h

/-- A success writes neither the flag nor the token. -/
theorem Session.Accord.succes {s : Session} (h : s.Accord) (i : ℕ) :
    (s.succes compteDe i).Accord := by
  unfold Session.succes
  split
  · split <;> exact h
  all_goals exact h

/-- An error keeps the agreement, unless it is the 401 of a component. -/
theorem accord_erreur_iff {s : Session} (h : s.Accord) (i status : ℕ) :
    (s.erreur i status).Accord ↔ s.SansRefus (.erreur i status) := by
  unfold Session.erreur SansRefus
  split
  case h_1 hi =>
    -- `loadUserInfo` goes on to `logout`
    refine iff_of_true (accord_localLogout _) fun _ token htoken => ?_
    rw [hi] at htoken
    cases htoken
  case h_2 hi =>
    have hlogin : authInterceptor.error (s.recu i) .login status = s.recu i := if_neg (by simp)
    rw [hlogin]
    refine iff_of_true h fun _ token htoken => ?_
    rw [hi] at htoken
    cases htoken
  case h_3 token hi =>
    unfold authInterceptor.error
    split
    case isTrue h401 =>
      -- the token is gone, the flag is as it was
      have hflag : (({ s.recu i with jwtToken := none } : Session).Accord) ↔
          s.isLoggedIn ≠ true :=
        ⟨fun hacc hlogged => hacc.mp hlogged rfl, fun hne =>
          ⟨fun hlogged => absurd hlogged hne, fun hsome => absurd rfl hsome⟩⟩
      have hacc : s.isLoggedIn = true ↔ s.jwtToken ≠ none := h
      rw [hflag, Ne, hacc, not_ne_iff]
      exact ⟨fun hnone _ _ _ => hnone, fun hok => hok h401.1 token hi⟩
    case isFalse h401 =>
      refine iff_of_true h fun hstatus => ?_
      exact absurd ⟨hstatus, nofun⟩ h401
  case h_4 hi =>
    refine iff_of_true h fun _ token htoken => ?_
    rw [hi] at htoken
    cases htoken

/-- **Step.** -/
theorem accord_step_iff {s : Session} (h : s.Accord) (p : Pas) :
    (s.step compteDe payloadRoles p).Accord ↔ s.SansRefus p := by
  cases p with
  | page => exact iff_of_true (accord_constructor _) trivial
  | app ssoToken action => exact iff_of_true (h.app ssoToken action) trivial
  | handleLoginSuccess t => exact iff_of_true (accord_handleLoginSuccess s t) trivial
  | localLogout => exact iff_of_true (accord_localLogout s) trivial
  | logout => exact iff_of_true (accord_localLogout s) trivial
  | login => exact iff_of_true h trivial
  | composant => exact iff_of_true h trivial
  | succes i => exact iff_of_true (h.succes i) trivial
  | erreur i status => exact accord_erreur_iff h i status

/-! ### Runs -/

/-- **The flag and the token.**  They agree at the start of a page.  From there on they agree in
every state of a run, and the guard with the requests, exactly when no component gets a 401 while
a token is stored. -/
theorem login_flag_agrees_iff (compteDe : Token → Option Compte)
    (payloadRoles : Token → Option (List String)) (jwtToken : Option Token) (pas : List Pas) :
    (AuthService.constructor jwtToken).Accord ∧
      (Along (Session.step compteDe payloadRoles)
          (fun s p => (s.step compteDe payloadRoles p).Accord ∧
            (s.step compteDe payloadRoles p).GardeFidele)
          (AuthService.constructor jwtToken) pas ↔
        Along (Session.step compteDe payloadRoles) SansRefus
          (AuthService.constructor jwtToken) pas) := by
  refine ⟨accord_constructor jwtToken, ?_⟩
  refine along_iff (I := Accord) _ (fun s p hs => ?_) (fun s p _ hok => hok.1) pas _
    (accord_constructor jwtToken)
  rw [gardeFidele_iff, and_self]
  exact accord_step_iff hs p

/-- A page with a stored token: the account is loaded, the token expires, and the answer to a call
of the catalogue is a 401.  The guard still admits the session, whose requests carry no token. -/
theorem login_flag_after_expired_token :
    let t : Token := ⟨"h.biblio.s", by decide⟩
    let s := run (Session.step (fun _ => some ⟨"biblio@b.fr", ["ROLE_BIBLIO", "ROLE_USER"]⟩)
      fun _ => some ["ROLE_BIBLIO", "ROLE_USER"]) (AuthService.constructor (some t))
      [.succes 0, .composant, .erreur 0 401]
    s.isLoggedIn = true ∧ s.jwtToken = none ∧ authGuard s = true ∧ ¬ s.Accord ∧
      ¬ s.GardeFidele := by
  intro t s
  have hnot : ¬ s.Accord := fun h => absurd (h.mp (by decide)) (by decide)
  refine ⟨by decide, by decide, by decide, hnot, ?_⟩
  rw [gardeFidele_iff]
  exact hnot

end Biblio
