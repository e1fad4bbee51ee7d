import Biblio.Equiv.Confidentiality
import Biblio.Equiv.ProfilePage

/-!
# The page of a member and his account

The client holds a token that names the account by its email, and the page can change that email.
`Suivi` is what the page, the requests on their way, the token and the account have in common in
every state of a run in which nobody else renames or deletes the account or takes its email:

* a component that shows an account shows it, its loans and its reservations as they were at some
  moment of the run, but for spaces that were sent and that a column has no room for; one that
  shows no account shows no loan and no reservation;
* a form that the page does not take for a new email sends the email of the token;
* the account has the email of the token, or the client has no token any more, or a new email has
  been saved and the answer that makes the client log out is on its way.

`profile_follows_account` states the first and the last.
-/

namespace Biblio

open Prog UserController

/-! ### What the API does with the form -/

/-- The update of an account with the form of the page: refused without effect, or saved with the
three fields. -/
inductive IssueForm (s : Tables) (row : UtilisateurRow) (form : FormProfil) :
    Tables × Reponse → Prop
  | refus {rep : Reponse} (h : ∀ u t, (rep.lue u t).succes = false) : IssueForm s row form (s, rep)
  | enregistre
      (hok : Enregistrable s row form.email (some form.adressePostale) (some form.numTel)) :
      IssueForm s row form
        (avecProfil s row form.email (some form.adressePostale) (some form.numTel),
          .jsonUtilisateur
            (profil row form.email (some form.adressePostale) (some form.numTel)).toEntity)

section Form

variable {s : Tables} {row : UtilisateurRow} {u : ℕ}

theorem issueForm_suite (hrow : s.utilisateur.find row.id = some row) (form : FormProfil) :
    IssueForm s row form ((updateMeSuite row form.json form.email).alone s) := by
  have hexec := exec_profil hrow form.email (some form.adressePostale) (some form.numTel)
  rw [← commit_exec] at hexec
  show IssueForm s row form (alone (flush _ _) s)
  by_cases hok : Enregistrable s row form.email (some form.adressePostale) (some form.numTel)
  · rw [if_pos hok] at hexec
    rw [alone_flush_some hexec]
    exact .enregistre hok
  · rw [if_neg hok] at hexec
    rw [alone_flush_none hexec]
    exact .refus fun _ _ => rfl

theorem issueForm_updateMe (hrow : s.utilisateur.find u = some row) (form : FormProfil) :
    IssueForm s row form ((updateMe u form.json).alone s) := by
  obtain rfl : row.id = u := Table.key_of_find hrow
  have hget : form.json.get "email" = .str form.email := rfl
  simp only [updateMe, read_bind, alone_query, hrow]
  split
  · next hnull => cases hnull
  rw [hget]
  split_ifs with hset
  · simp only [alone_query]
    split_ifs
    · exact .refus fun _ _ => rfl
    · exact issueForm_suite hrow form
  · have hsame : form.email = row.email := by
      simpa [Json.isset, Json.identical] using hset
    have hend := issueForm_suite hrow form
    rw [hsame] at hend
    exact hend

/-- What the requests of `refreshData` show of an account. -/
theorem repondre_partie (api : Api) (hrow : s.utilisateur.find u = some row) (n : ℕ) :
    (AppelProfil.partie n .empruntsData).appel.repondre api u s
        = .emprunts ((getEmprunts u s).map s.serialiserEmprunt) ∧
      (AppelProfil.partie n .reservationsData).appel.repondre api u s
        = .reservations ((getReservations u s).map s.serialiserReservation) ∧
      (AppelProfil.partie n .userData).appel.repondre api u s
        = .utilisateur
          (s.serialiserUtilisateur row.toEntity (getEmprunts u s) (getReservations u s)) := by
  simp only [AppelProfil.appel, AppelMembre.repondre, Get.handler,
    UserActionsController.mesEmprunts, UserActionsController.mesReservations, lireMe, answer,
    read_bind, alone_query, hrow]
  exact ⟨rfl, rfl, rfl⟩

/-- The cancellation of a reservation leaves the accounts alone. -/
theorem utilisateur_delete (id : ℕ) :
    ((ReservationsController.delete u id).after s).utilisateur = s.utilisateur ∧
      ((ReservationsController.delete u id).after s).emailKey = s.emailKey := by
  refine ⟨?_, emailKey_apres Exemple.services s (.apiDelete u id)⟩
  exact apres_induct (P := fun s' => s'.utilisateur = s.utilisateur) Exemple.services s
    (.apiDelete u id) rfl fun ws s' hecrit hc => hecrit.utilisateur_eq rfl hc

end Form

/-! ### Genuine data -/

/-- A text that is shown for one that a column of `n` characters holds: it may still have spaces
that the column has no room for. -/
def AuxEspacesPres (n : ℕ) (tenu montre : Option String) : Prop :=
  montre = tenu ∨ fits n montre = true ∧ tenu = montre.map (couper n)

theorem auxEspacesPres_garde {n : ℕ} {v : Option String} (h : fits n v = true)
    (o : Option String) : AuxEspacesPres n (garde (Option.map (couper n)) (some o) v) v := by
  unfold garde
  split_ifs
  · exact Or.inl rfl
  · exact Or.inr ⟨h, rfl⟩

theorem some_garde (n : ℕ) (o v : String) : some (garde (couper n) (some o) v)
    = garde (Option.map (couper n)) (some (some o)) (some v) := by
  unfold garde
  by_cases h : some v = some o
  · rw [if_pos h, if_pos (congrArg some h)]
  · rw [if_neg h, if_neg fun h' => h (Option.some.inj h')]
    rfl

/-- An account as it is shown for the row `row`. -/
def Montrable (row montre : UtilisateurRow) : Prop :=
  ∃ email adressePostale numTel, montre = profil row email adressePostale numTel ∧
    AuxEspacesPres 180 (some row.email) (some email) ∧
    AuxEspacesPres 255 row.adressePostale adressePostale ∧ AuxEspacesPres 20 row.numTel numTel

theorem montrable_self (row : UtilisateurRow) : Montrable row row :=
  ⟨row.email, row.adressePostale, row.numTel, rfl, Or.inl rfl, Or.inl rfl, Or.inl rfl⟩

/-- The account in the answer to an update. -/
theorem montrable_profilGarde {row : UtilisateurRow} {email : String}
    {adressePostale numTel : Option String}
    (h : (profil row email adressePostale numTel).toEntity.fits = true) :
    Montrable (profilGarde row email adressePostale numTel)
      (profil row email adressePostale numTel) := by
  simp only [Utilisateur.fits, UtilisateurRow.toEntity, profil, Bool.and_eq_true] at h
  refine ⟨email, adressePostale, numTel, rfl, ?_, ?_, ?_⟩
  · show AuxEspacesPres 180 (some (garde (couper 180) (some row.email) email)) (some email)
    rw [some_garde]
    exact auxEspacesPres_garde (by tauto) _
  · exact auxEspacesPres_garde (by tauto) _
  · exact auxEspacesPres_garde (by tauto) _

section Suivi

variable (M : Tables → Prop) (u : ℕ) (j : Jeton) (tenu : Prop)

/-- The loans of the account at some moment. -/
def EmpruntsVus (l : List EmpruntRead) : Prop :=
  ∃ s, M s ∧ l = (getEmprunts u s).map s.serialiserEmprunt

/-- The reservations of the account at some moment. -/
def ReservationsVues (l : List ReservationRead) : Prop :=
  ∃ s, M s ∧ l = (getReservations u s).map s.serialiserReservation

/-- The account at some moment. -/
def CompteVu (x : UtilisateurRead) : Prop :=
  ∃ s row montre, M s ∧ s.utilisateur.find u = some row ∧ Montrable row montre ∧
    x = s.serialiserUtilisateur montre.toEntity (getEmprunts u s) (getReservations u s)

/-- The account at some moment; if the email of the token is held, with that one. -/
def CompteDuJeton (x : UtilisateurRead) : Prop :=
  CompteVu M u x ∧ (tenu → x.email = some j.username)

/-- What the successful answer of a request shows. -/
def Vraie (rep : ReponseLue) : AppelProfil → Prop
  | .partie _ .empruntsData => EmpruntsVus M u rep.lesEmprunts
  | .partie _ .reservationsData => ReservationsVues M u rep.lesReservations
  | .partie _ .userData | .updateProfile _ _ false =>
    ∃ x, rep.compte = some x ∧ CompteDuJeton M u j tenu x
  | _ => True

/-- A request of the page: it carries the token, and where the page does not take the email for
changed, it sends the one of the token. -/
structure EnvoiSuivi (e : EnvoiProfil) : Prop where
  jeton : ∀ j', e.jeton = some j' → j' = j
  vraie : ∀ rep, e.reponse = some rep → rep.succes = true → Vraie M u j tenu rep e.appel
  email : ∀ c form, e.appel = .updateProfile c form false → tenu → form.email = j.username

/-- A component shows nothing, or the account, its loans and its reservations. -/
structure ComposantSuivi (p : Profil) : Prop where
  vide : p.user = none → p.emprunts = [] ∧ p.reservations = []
  emprunts : p.user ≠ none → EmpruntsVus M u p.emprunts
  reservations : p.user ≠ none → ReservationsVues M u p.reservations
  user : ∀ x, p.user = some x → CompteDuJeton M u j tenu x

/-- A new email has been saved, and the answer, which is a logout, is on its way. -/
def EnvoiProfil.Renommage (e : EnvoiProfil) : Prop :=
  e.attendu = true ∧ (∃ c form, e.appel = .updateProfile c form true) ∧
    ∃ rep, e.reponse = some rep ∧ rep.succes = true

/-- The component whose request it is. -/
def Espace.composantDe (σ : Espace) : AppelProfil → ℕ
  | .partie n _ => (σ.forkJoins n).composant
  | .updateProfile c _ _ | .annulerReservation c _ => c

theorem Espace.composantDe_noter (σ : Espace) (n : ℕ) (q : Partie) (rep : ReponseLue)
    (a : AppelProfil) : (σ.noter n q rep).composantDe a = σ.composantDe a := by
  cases a with
  | partie m q' =>
    show ((σ.noter n q rep).forkJoins m).composant = (σ.forkJoins m).composant
    by_cases hm : m = n
    · rw [hm, Espace.noter_self]
    · rw [Espace.noter_of_ne σ q rep hm]
  | _ => rfl

theorem Espace.composantDe_fermer (σ : Espace) (n : ℕ) (a : AppelProfil) :
    (σ.fermer n).composantDe a = σ.composantDe a := by
  cases a with
  | partie m q' =>
    show ((σ.fermer n).forkJoins m).composant = (σ.forkJoins m).composant
    by_cases hm : m = n
    · rw [hm]
      show (Function.update σ.forkJoins n _ n).composant = _
      rw [Function.update_self]
    · rw [Espace.fermer_of_ne σ hm]
  | _ => rfl

/-- Requests belong to components of the page, and those to come are empty. -/
structure Espace.Rattache (σ : Espace) : Prop where
  envois : ∀ e ∈ σ.envois, σ.composantDe e.appel < σ.nbComposants
  libres : ∀ c, σ.nbComposants ≤ c → (σ.composants c).user = none

/-- The client follows the account: what it shows is genuine, and its token is that of the account
as long as `tenu` holds; else it has none, or a new email has been saved and the logout is on its
way. -/
structure Suivi (σ : Espace) : Prop where
  compte : ∃ row, σ.tables.utilisateur.find u = some row ∧ (tenu → row.email = j.username)
  fini : tenu ∨ σ.jwtToken = none ∨ ∃ e ∈ σ.envois, e.Renommage
  detenu : ∀ row ∈ σ.tables.utilisateur.rows,
    σ.tables.memeEmail row.email j.username = true → row.id = u
  jeton : ∀ j', σ.jwtToken = some j' → j' = j
  envois : ∀ e ∈ σ.envois, EnvoiSuivi M u j tenu e
  abandon : ∀ e ∈ σ.envois, e.attendu = false → e.reponse = none →
    (∃ c form b, e.appel = .updateProfile c form b) → σ.jwtToken = none
  forkJoins : ∀ n q rep, (σ.forkJoins n).recues q = some rep → Vraie M u j tenu rep (.partie n q)
  composants : ∀ c, ComposantSuivi M u j tenu (σ.composants c)
  sauves : ∀ e ∈ σ.envois, ∀ c form, e.appel = .updateProfile c form false →
    (σ.composants c).user ≠ none
  rattache : σ.isLoggedIn = true → σ.Rattache

end Suivi

section Mono

variable {M : Tables → Prop} {u : ℕ} {j : Jeton} {tenu tenu' : Prop} (htenu : tenu' → tenu)

include htenu

theorem CompteDuJeton.mono {x : UtilisateurRead} (h : CompteDuJeton M u j tenu x) :
    CompteDuJeton M u j tenu' x := ⟨h.1, fun ht => h.2 (htenu ht)⟩

theorem Vraie.mono {rep : ReponseLue} {a : AppelProfil} (h : Vraie M u j tenu rep a) :
    Vraie M u j tenu' rep a := by
  cases a with
  | partie n q =>
    cases q with
    | userData => exact h.imp fun _ hx => ⟨hx.1, hx.2.mono htenu⟩
    | _ => exact h
  | updateProfile c form emailChanged =>
    cases emailChanged with
    | true => trivial
    | false => exact h.imp fun _ hx => ⟨hx.1, hx.2.mono htenu⟩
  | annulerReservation c id => trivial

theorem EnvoiSuivi.mono {e : EnvoiProfil} (h : EnvoiSuivi M u j tenu e) :
    EnvoiSuivi M u j tenu' e where
  jeton := h.jeton
  vraie rep hrep hsucces := (h.vraie rep hrep hsucces).mono htenu
  email c form ha ht := h.email c form ha (htenu ht)

theorem ComposantSuivi.mono {p : Profil} (h : ComposantSuivi M u j tenu p) :
    ComposantSuivi M u j tenu' p where
  vide := h.vide
  emprunts := h.emprunts
  reservations := h.reservations
  user x hx := (h.user x hx).mono htenu

end Mono

/-! ### The operations of the client -/

section Operations

variable {M : Tables → Prop} {u : ℕ} {j : Jeton} {tenu : Prop}

/-- The data of a request do not depend on whether it is awaited. -/
theorem EnvoiSuivi.clos {e : EnvoiProfil} (h : EnvoiSuivi M u j tenu e) :
    EnvoiSuivi M u j tenu { e with attendu := false } := ⟨h.jeton, h.vraie, h.email⟩

/-- A component that shows the same data. -/
theorem ComposantSuivi.congr {p p' : Profil} (h : ComposantSuivi M u j tenu p)
    (huser : p'.user = p.user) (hemprunts : p'.emprunts = p.emprunts)
    (hreservations : p'.reservations = p.reservations) : ComposantSuivi M u j tenu p' where
  vide := by
    rw [huser, hemprunts, hreservations]
    exact h.vide
  emprunts := by
    rw [huser, hemprunts]
    exact h.emprunts
  reservations := by
    rw [huser, hreservations]
    exact h.reservations
  user := by
    rw [huser]
    exact h.user

end Operations

/-- An entry of a list other than the one that is replaced. -/
theorem mem_modify_of_ne {β : Type} {l : List β} {i : ℕ} {x y : β} {f : β → β}
    (hx : l[i]? = some x) (hy : y ∈ l) (hne : y ≠ x) : y ∈ l.modify i f := by
  obtain ⟨k, hk⟩ := List.mem_iff_getElem?.mp hy
  have hik : i ≠ k := by
    rintro rfl
    exact hne (Option.some.inj (hk.symm.trans hx))
  refine List.mem_iff_getElem?.mpr ⟨k, ?_⟩
  rw [List.getElem?_modify, hk]
  simp only [if_neg hik]
  rfl

/-- The entries of a list of which one is replaced. -/
theorem mem_modify {β : Type} {l : List β} {i : ℕ} {y : β} {f : β → β} (hy : y ∈ l.modify i f) :
    y ∈ l ∨ ∃ x, l[i]? = some x ∧ y = f x := by
  obtain ⟨k, hk⟩ := List.mem_iff_getElem?.mp hy
  rw [List.getElem?_modify] at hk
  obtain ⟨x, hx, rfl⟩ := Option.map_eq_some_iff.mp hk
  by_cases hik : i = k
  · subst hik
    exact Or.inr ⟨x, hx, by simp⟩
  · left
    simp only [if_neg hik]
    exact List.mem_of_getElem? hx

namespace Suivi

variable {M : Tables → Prop} {u : ℕ} {j : Jeton} {tenu : Prop} {σ : Espace}

theorem envoyer (h : Suivi M u j tenu σ) {a : AppelProfil}
    (ha : ∀ c form, a = .updateProfile c form false →
      (σ.composants c).user ≠ none ∧ (tenu → form.email = j.username))
    (hc : σ.isLoggedIn = true → σ.composantDe a < σ.nbComposants) :
    Suivi M u j tenu (σ.envoyer a) where
  compte := h.compte
  fini := by
    refine h.fini.imp id fun hfini => hfini.imp id ?_
    rintro ⟨e, he, hrenommage⟩
    exact ⟨e, List.mem_append_left _ he, hrenommage⟩
  detenu := h.detenu
  jeton := h.jeton
  envois e he := by
    rcases List.mem_append.mp he with he | he
    · exact h.envois e he
    · obtain rfl := List.mem_singleton.mp he
      refine ⟨h.jeton, fun _ hrep => ?_, fun c form heq => (ha c form heq).2⟩
      cases hrep
  abandon e he hattendu := by
    rcases List.mem_append.mp he with he | he
    · exact h.abandon e he hattendu
    · obtain rfl := List.mem_singleton.mp he
      cases hattendu
  forkJoins := h.forkJoins
  composants := h.composants
  sauves e he c form heq := by
    rcases List.mem_append.mp he with he | he
    · exact h.sauves e he c form heq
    · obtain rfl := List.mem_singleton.mp he
      exact (ha c form heq).1
  rattache hlog := by
    refine ⟨fun e he => ?_, (h.rattache hlog).libres⟩
    rcases List.mem_append.mp he with he | he
    · exact (h.rattache hlog).envois e he
    · obtain rfl := List.mem_singleton.mp he
      exact hc hlog

/-- A component shows the same account as before, or it is one of the page and shows another. -/
theorem modifier (h : Suivi M u j tenu σ) (c : ℕ) {f : Profil → Profil}
    (hf : ComposantSuivi M u j tenu (f (σ.composants c)))
    (huser : (f (σ.composants c)).user = (σ.composants c).user ∨
      (f (σ.composants c)).user ≠ none ∧ (σ.isLoggedIn = true → c < σ.nbComposants)) :
    Suivi M u j tenu (σ.modifier c f) where
  compte := h.compte
  fini := h.fini
  detenu := h.detenu
  jeton := h.jeton
  envois := h.envois
  abandon := h.abandon
  forkJoins := h.forkJoins
  composants d := by
    by_cases hd : d = c
    · subst hd
      rw [Espace.modifier_self]
      exact hf
    · rw [Espace.modifier_of_ne σ f hd]
      exact h.composants d
  sauves e he d form ha := by
    have hbefore := h.sauves e he d form ha
    by_cases hd : d = c
    · subst hd
      rw [Espace.modifier_self]
      rcases huser with hsame | ⟨hne, -⟩
      · rw [hsame]
        exact hbefore
      · exact hne
    · rw [Espace.modifier_of_ne σ f hd]
      exact hbefore
  rattache hlog := by
    refine ⟨(h.rattache hlog).envois, fun d hd => ?_⟩
    have hbefore := (h.rattache hlog).libres d hd
    by_cases hdc : d = c
    · subst hdc
      rw [Espace.modifier_self]
      rcases huser with hsame | ⟨-, hlt⟩
      · rw [hsame]
        exact hbefore
      · exact absurd (hlt hlog) (Nat.not_lt.mpr hd)
    · rw [Espace.modifier_of_ne σ f hdc]
      exact hbefore

theorem forkJoin (h : Suivi M u j tenu σ) (c : ℕ) (f : Profil → Profil)
    (hf : ComposantSuivi M u j tenu (f (σ.composants c)))
    (huser : (f (σ.composants c)).user = (σ.composants c).user)
    (hc : σ.isLoggedIn = true → c < σ.nbComposants) :
    Suivi M u j tenu ((σ.modifier c f).forkJoin c) where
  compte := h.compte
  fini := h.fini
  detenu := h.detenu
  jeton := h.jeton
  envois := h.envois
  abandon := h.abandon
  forkJoins n q rep hrep := by
    by_cases hn : n = σ.nbForkJoins
    · rw [hn, Espace.forkJoin_self] at hrep
      cases hrep
    · rw [Espace.forkJoin_of_ne σ c f hn] at hrep
      exact h.forkJoins n q rep hrep
  composants := (h.modifier c hf (Or.inl huser)).composants
  sauves := (h.modifier c hf (Or.inl huser)).sauves
  rattache hlog := by
    have hmodifier := (h.modifier c hf (Or.inl huser)).rattache hlog
    refine ⟨fun e he => ?_, hmodifier.libres⟩
    have hbefore := hmodifier.envois e he
    cases ha : e.appel with
    | partie n q =>
      rw [ha] at hbefore
      show (((σ.modifier c f).forkJoin c).forkJoins n).composant < σ.nbComposants
      by_cases hn : n = σ.nbForkJoins
      · rw [hn, Espace.forkJoin_self]
        exact hc hlog
      · rw [Espace.forkJoin_of_ne σ c f hn]
        exact hbefore
    | _ =>
      rw [ha] at hbefore
      exact hbefore

theorem envoyer_partie (h : Suivi M u j tenu σ) {n : ℕ} {q : Partie}
    (hc : σ.isLoggedIn = true → (σ.forkJoins n).composant < σ.nbComposants) :
    Suivi M u j tenu (σ.envoyer (.partie n q)) := by
  refine h.envoyer (fun c form heq => ?_) hc
  cases heq

theorem refreshData (h : Suivi M u j tenu σ) (c : ℕ)
    (hc : σ.isLoggedIn = true → c < σ.nbComposants) : Suivi M u j tenu (σ.refreshData c) := by
  unfold Espace.refreshData
  split_ifs with hlog
  · have hfork := h.forkJoin c (fun p => { p with isLoading := true })
      ((h.composants c).congr rfl rfl rfl) rfl hc
    have hcomposant : (((σ.modifier c fun p => { p with isLoading := true }).forkJoin c).forkJoins
        σ.nbForkJoins).composant < σ.nbComposants := by
      rw [Espace.forkJoin_self]
      exact hc hlog
    refine envoyer_partie (envoyer_partie (hfork.envoyer_partie ?_) ?_) ?_
    all_goals exact fun _ => hcomposant
  · exact h.modifier c ((h.composants c).congr rfl rfl rfl) (Or.inl rfl)

theorem noter (h : Suivi M u j tenu σ) {n : ℕ} {q : Partie} {rep : ReponseLue}
    (hrep : Vraie M u j tenu rep (.partie n q)) : Suivi M u j tenu (σ.noter n q rep) where
  compte := h.compte
  fini := h.fini
  detenu := h.detenu
  jeton := h.jeton
  envois := h.envois
  abandon := h.abandon
  forkJoins m q' rep' hrep' := by
    by_cases hm : m = n
    · subst hm
      rw [Espace.noter_self] at hrep'
      dsimp only at hrep'
      by_cases hq : q' = q
      · subst hq
        rw [Function.update_self] at hrep'
        obtain rfl := Option.some.inj hrep'
        exact hrep
      · rw [Function.update_of_ne hq] at hrep'
        exact h.forkJoins m q' rep' hrep'
    · rw [Espace.noter_of_ne σ q rep hm] at hrep'
      exact h.forkJoins m q' rep' hrep'
  composants := h.composants
  sauves := h.sauves
  rattache hlog := by
    refine ⟨fun e he => ?_, (h.rattache hlog).libres⟩
    rw [Espace.composantDe_noter]
    exact (h.rattache hlog).envois e he

/-- The end of a `forkJoin` concerns no request that writes. -/
theorem fermer (h : Suivi M u j tenu σ) (n : ℕ) : Suivi M u j tenu (σ.fermer n) := by
  have hpartie : ∀ e' ∈ (σ.fermer n).envois, ∃ e ∈ σ.envois, e'.appel = e.appel ∧
      (e' = e ∨ (∃ m q, e.appel = .partie m q) ∧ e' = { e with attendu := false }) := by
    intro e' he'
    obtain ⟨e, he, rfl⟩ := List.mem_map.mp he'
    refine ⟨e, he, ?_⟩
    split
    · next m q ha =>
      split_ifs
      · exact ⟨rfl, Or.inr ⟨⟨m, q, ha⟩, rfl⟩⟩
      · exact ⟨rfl, Or.inl rfl⟩
    · exact ⟨rfl, Or.inl rfl⟩
  refine ⟨h.compte, ?_, h.detenu, h.jeton, fun e' he' => ?_, fun e' he' hattendu hrep hsave => ?_,
    ?_, h.composants, fun e' he' c form ha => ?_, fun hlog => ⟨fun e' he' => ?_, ?_⟩⟩
  · refine h.fini.imp id fun hfini => hfini.imp id ?_
    rintro ⟨e, he, hrenommage⟩
    refine ⟨e, List.mem_map.mpr ⟨e, he, ?_⟩, hrenommage⟩
    obtain ⟨-, ⟨c, form, ha⟩, -⟩ := hrenommage
    rw [ha]
  · obtain ⟨e, he, -, rfl | ⟨-, rfl⟩⟩ := hpartie e' he'
    · exact h.envois e' he
    · exact (h.envois e he).clos
  · obtain ⟨e, he, -, rfl | ⟨⟨m, q, ha⟩, rfl⟩⟩ := hpartie e' he'
    · exact h.abandon e' he hattendu hrep hsave
    · obtain ⟨c, form, b, hsave⟩ := hsave
      exact absurd (ha.symm.trans hsave) (by simp)
  · intro m q rep hrep
    rw [Espace.fermer_recues] at hrep
    exact h.forkJoins m q rep hrep
  · obtain ⟨e, he, hsame, -⟩ := hpartie e' he'
    exact h.sauves e he c form (hsame.symm.trans ha)
  · obtain ⟨e, he, hsame, -⟩ := hpartie e' he'
    rw [hsame, Espace.composantDe_fermer]
    exact (h.rattache hlog).envois e he
  · exact (h.rattache hlog).libres

/-- A request is over that was no new email, and was served if it is one of those that write. -/
theorem clore (h : Suivi M u j tenu σ) {i : ℕ} {e : EnvoiProfil} (he : σ.envois[i]? = some e)
    (hne : ¬ e.Renommage)
    (hservie : e.reponse = none → ∀ c form b, e.appel ≠ .updateProfile c form b) :
    Suivi M u j tenu (σ.clore i) where
  compte := h.compte
  fini := by
    refine h.fini.imp id fun hfini => hfini.imp id ?_
    rintro ⟨e', he', hrenommage⟩
    refine ⟨e', mem_modify_of_ne he he' ?_, hrenommage⟩
    rintro rfl
    exact hne hrenommage
  detenu := h.detenu
  jeton := h.jeton
  envois e' he' := by
    rcases mem_modify he' with he' | ⟨x, hx, rfl⟩
    · exact h.envois e' he'
    · exact (h.envois x (List.mem_of_getElem? hx)).clos
  abandon e' he' hattendu hrep hsave := by
    rcases mem_modify he' with he' | ⟨x, hx, rfl⟩
    · exact h.abandon e' he' hattendu hrep hsave
    · obtain rfl := Option.some.inj (he.symm.trans hx)
      obtain ⟨c, form, b, hsave⟩ := hsave
      exact absurd hsave (hservie hrep c form b)
  forkJoins := h.forkJoins
  composants := h.composants
  sauves e' he' := by
    rcases mem_modify he' with he' | ⟨x, hx, rfl⟩
    · exact h.sauves e' he'
    · exact h.sauves x (List.mem_of_getElem? hx)
  rattache hlog := by
    refine ⟨fun e' he' => ?_, (h.rattache hlog).libres⟩
    rcases mem_modify he' with he' | ⟨x, hx, rfl⟩
    · exact (h.rattache hlog).envois e' he'
    · exact (h.rattache hlog).envois x (List.mem_of_getElem? hx)

/-- After a logout nothing remains to be awaited. -/
theorem logout (h : Suivi M u j tenu σ) : Suivi M u j tenu σ.logout where
  compte := h.compte
  fini := Or.inr (Or.inl rfl)
  detenu := h.detenu
  jeton := fun _ hj => by cases hj
  envois e he := by
    obtain ⟨x, hx, rfl⟩ := List.mem_map.mp he
    exact (h.envois x hx).clos
  abandon _ _ _ _ _ := rfl
  forkJoins := h.forkJoins
  composants := h.composants
  sauves e he := by
    obtain ⟨x, hx, rfl⟩ := List.mem_map.mp he
    exact h.sauves x hx
  rattache hlog := by cases hlog

/-- The token is removed. -/
theorem sansJeton (h : Suivi M u j tenu σ) : Suivi M u j tenu { σ with jwtToken := none } where
  compte := h.compte
  fini := Or.inr (Or.inl rfl)
  detenu := h.detenu
  jeton := fun _ hj => by cases hj
  envois := h.envois
  abandon _ _ _ _ _ := rfl
  forkJoins := h.forkJoins
  composants := h.composants
  sauves := h.sauves
  rattache hlog := ⟨(h.rattache hlog).envois, (h.rattache hlog).libres⟩

/-! ### Answers -/

theorem recues_of_results {f : ForkJoin} {results : Partie → ReponseLue}
    (h : f.results = some results) (q : Partie) : f.recues q = some (results q) := by
  unfold ForkJoin.results at h
  simp only [Option.bind_eq_bind, Option.bind_eq_some_iff] at h
  obtain ⟨emprunts, hemprunts, reservations, hreservations, user, huser, heq⟩ := h
  obtain rfl := Option.some.inj heq
  cases q with
  | empruntsData => exact hemprunts
  | reservationsData => exact hreservations
  | userData => exact huser

/-- The component shows the data of its `forkJoin` when they are complete. -/
theorem partieNext (h : Suivi M u j tenu σ) {n : ℕ} {q : Partie} {rep : ReponseLue}
    (hrep : Vraie M u j tenu rep (.partie n q))
    (hc : σ.isLoggedIn = true → (σ.forkJoins n).composant < σ.nbComposants) :
    Suivi M u j tenu (σ.partieNext n q rep) := by
  unfold Espace.partieNext
  dsimp only
  split
  · next results hresults =>
    have hvraie : ∀ q', Vraie M u j tenu (results q') (.partie n q') := fun q' =>
      (h.noter hrep).forkJoins n q' _ (recues_of_results hresults q')
    obtain ⟨x, hx, hcompte⟩ := hvraie .userData
    have hcomposant : ((σ.noter n q rep).forkJoins n).composant = (σ.forkJoins n).composant :=
      σ.composantDe_noter n q rep (.partie n q)
    have huser : (results .userData).compte ≠ none := by
      rw [hx]
      exact Option.some_ne_none x
    refine ((h.noter hrep).fermer n).modifier _
      ⟨fun hnone => absurd hnone huser, fun _ => hvraie .empruntsData,
        fun _ => hvraie .reservationsData, fun x' hx' => ?_⟩ (Or.inr ⟨huser, fun hlog => ?_⟩)
    · obtain rfl := Option.some.inj (hx.symm.trans hx')
      exact hcompte
    · rw [hcomposant]
      exact hc hlog
  · exact h.noter hrep

/-- A logout ends all requests, the one that is answered included. -/
theorem logout_clore (σ : Espace) (i : ℕ) : (σ.clore i).logout = σ.logout := by
  have henvois : (σ.envois.modify i fun e => { e with attendu := false }).map
      (fun e => { e with attendu := false })
        = σ.envois.map fun e => { e with attendu := false } := by
    refine List.ext_getElem? fun k => ?_
    rw [List.getElem?_map, List.getElem?_modify, List.getElem?_map]
    cases σ.envois[k]? with
    | none => rfl
    | some e => by_cases hik : i = k <;> simp [hik]
  unfold Espace.logout
  exact congrArg (fun l => { σ.logout with envois := l }) henvois

/-- The answer of a request arrives with a success. -/
theorem next (h : Suivi M u j tenu σ) {i : ℕ} {e : EnvoiProfil} (he : σ.envois[i]? = some e)
    {rep : ReponseLue} (hrep : e.reponse = some rep) (hsucces : rep.succes = true) :
    Suivi M u j tenu ((σ.clore i).next rep e.appel) := by
  have hmem := List.mem_of_getElem? he
  have hvraie := (h.envois e hmem).vraie rep hrep hsucces
  have hsauve := h.sauves e hmem
  have hplace : σ.isLoggedIn = true → σ.composantDe e.appel < σ.nbComposants := fun hlog =>
    (h.rattache hlog).envois e hmem
  have hclos : ¬ e.Renommage → Suivi M u j tenu (σ.clore i) := fun hne =>
    h.clore he hne fun hnone => by rw [hrep] at hnone; cases hnone
  cases ha : e.appel with
  | partie n q =>
    rw [ha] at hvraie hplace
    refine (hclos ?_).partieNext hvraie hplace
    rintro ⟨-, ⟨c, form, heq⟩, -⟩
    rw [ha] at heq
    cases heq
  | updateProfile c form emailChanged =>
    rw [ha] at hvraie hplace
    cases emailChanged with
    | true =>
      show Suivi M u j tenu (σ.clore i).logout
      rw [logout_clore]
      exact h.logout
    | false =>
      have hsuivi := hclos (by
        rintro ⟨-, ⟨c', form', heq⟩, -⟩
        rw [ha] at heq
        cases heq)
      -- the component has an account, and so its lists, since the form was sent
      have huser := hsauve c form ha
      have hcomposant := hsuivi.composants c
      obtain ⟨x, hx, hcompte⟩ := hvraie
      have hnew : rep.compte ≠ none := by
        rw [hx]
        exact Option.some_ne_none x
      refine hsuivi.modifier c (f := fun p => Profil.onSaveProfil.next p rep.compte)
        ⟨fun hnone => absurd hnone hnew, fun _ => hcomposant.emprunts huser,
          fun _ => hcomposant.reservations huser, fun x' hx' => ?_⟩ (Or.inr ⟨hnew, hplace⟩)
      obtain rfl := Option.some.inj (hx.symm.trans hx')
      exact hcompte
  | annulerReservation c id =>
    rw [ha] at hplace
    refine (hclos ?_).refreshData c hplace
    rintro ⟨-, ⟨c', form', heq⟩, -⟩
    rw [ha] at heq
    cases heq

/-- It arrives with an error, or is lost. -/
theorem error (h : Suivi M u j tenu σ) {i : ℕ} {e : EnvoiProfil} (he : σ.envois[i]? = some e)
    (hne : ¬ e.Renommage)
    (hservie : e.reponse = none → ∀ c form b, e.appel ≠ .updateProfile c form b) (status : ℕ) :
    Suivi M u j tenu ((σ.clore i).error status e.appel) := by
  have hsuivi := h.clore he hne hservie
  cases ha : e.appel with
  | partie n q =>
    exact (hsuivi.fermer n).modifier _ ((hsuivi.composants _).congr rfl rfl rfl) (Or.inl rfl)
  | updateProfile c form emailChanged =>
    have hsame : ∀ p, (Profil.onSaveProfil.error p status).user = p.user ∧
        (Profil.onSaveProfil.error p status).emprunts = p.emprunts ∧
        (Profil.onSaveProfil.error p status).reservations = p.reservations := by
      intro p
      unfold Profil.onSaveProfil.error
      split_ifs <;> exact ⟨rfl, rfl, rfl⟩
    obtain ⟨huser, hemprunts, hreservations⟩ := hsame (σ.composants c)
    exact hsuivi.modifier c (f := fun p => Profil.onSaveProfil.error p status)
      ((hsuivi.composants c).congr huser hemprunts hreservations) (Or.inl huser)
  | annulerReservation c id => exact hsuivi

theorem intercepter (h : Suivi M u j tenu σ) (status : ℕ) :
    Suivi M u j tenu (σ.intercepter status) := by
  unfold Espace.intercepter
  split_ifs
  · exact h.sansJeton
  · exact h

theorem recevoir (h : Suivi M u j tenu σ) (i : ℕ) : Suivi M u j tenu (σ.recevoir i) := by
  unfold Espace.recevoir
  split
  · next appel jeton rep he =>
    split_ifs with hsucces
    · exact h.next he rfl hsucces
    · rw [Espace.intercepter_clore]
      refine (h.intercepter rep.status).error (e := ⟨appel, jeton, some rep, true⟩) ?_ ?_ ?_
        rep.status
      · rw [Espace.intercepter_envois]
        exact he
      · rintro ⟨-, -, rep', hrep', hsucces'⟩
        obtain rfl := Option.some.inj hrep'
        exact hsucces hsucces'
      · intro hnone
        cases hnone
  · exact h

/-- A request that writes no account is lost. -/
theorem perdre (h : Suivi M u j tenu σ) {i : ℕ}
    (hi : ∀ e, σ.envois[i]? = some e → ∀ c form b, e.appel ≠ .updateProfile c form b) :
    Suivi M u j tenu (σ.perdre i) := by
  unfold Espace.perdre
  split
  · next he =>
    have hsave := hi _ he
    refine h.error he ?_ (fun _ => hsave) 0
    rintro ⟨-, ⟨c, form, ha⟩, -⟩
    exact hsave c form true ha
  · exact h

/-! ### The API -/

/-- A token that is accepted stands for the account. -/
theorem authentifie (h : Suivi M u j tenu σ) {e : EnvoiProfil} (he : e ∈ σ.envois)
    {row : UtilisateurRow}
    (hrow : e.jeton.bind (authentifierApi σ.tables σ.horloge) = some row) :
    σ.tables.utilisateur.find u = some row ∧ row.id = u ∧ (tenu → row.email = j.username) := by
  obtain ⟨j', hj', haccepte⟩ := Option.bind_eq_some_iff.mp hrow
  obtain rfl := (h.envois e he).jeton j' hj'
  obtain ⟨hmem, hmeme⟩ := mem_of_findByEmail (findByEmail_of_accepted (Or.inl haccepte))
  have hid := h.detenu row hmem hmeme
  have hfind : σ.tables.utilisateur.find u = some row :=
    (σ.tables.utilisateur.find_eq_some_iff u row).mpr ⟨hmem, hid⟩
  obtain ⟨row', hrow', hemail⟩ := h.compte
  obtain rfl := Option.some.inj (hfind.symm.trans hrow')
  exact ⟨hfind, hid, hemail⟩

/-- The request `i` gets its answer, and the tables change; if it has saved a new email, the one of
the token is not held any more. -/
theorem repondu (h : Suivi M u j tenu σ) {i : ℕ} {e : EnvoiProfil} (he : σ.envois[i]? = some e)
    (hrep : e.reponse = none) {s : Tables} {rep : ReponseLue} {tenu' : Prop} (htenu : tenu' → tenu)
    (hsuite : tenu' = tenu ∨ rep.succes = true ∧ ∃ c form, e.appel = .updateProfile c form true)
    (hvraie : rep.succes = true → Vraie M u j tenu' rep e.appel)
    (hdetenu : ∀ row ∈ s.utilisateur.rows, s.memeEmail row.email j.username = true → row.id = u)
    (hcompte : ∃ row, s.utilisateur.find u = some row ∧ (tenu' → row.email = j.username)) :
    Suivi M u j tenu' { σ with
      tables := s, envois := σ.envois.modify i fun e => { e with reponse := some rep } } where
  compte := hcompte
  fini := by
    rcases hsuite with rfl | ⟨hsucces, c, form, ha⟩
    · refine h.fini.imp id fun hfini => hfini.imp id ?_
      rintro ⟨e', he', hrenommage⟩
      refine ⟨e', mem_modify_of_ne he he' ?_, hrenommage⟩
      -- the answer to that one is there already
      rintro rfl
      obtain ⟨-, -, rep', hrep', -⟩ := hrenommage
      rw [hrep] at hrep'
      cases hrep'
    · right
      by_cases hattendu : e.attendu = true
      · refine Or.inr ⟨{ e with reponse := some rep }, ?_, hattendu, ⟨c, form, ha⟩, rep, rfl,
          hsucces⟩
        refine List.mem_iff_getElem?.mpr ⟨i, ?_⟩
        rw [List.getElem?_modify, he]
        simp
      · rw [Bool.not_eq_true] at hattendu
        exact Or.inl (h.abandon e (List.mem_of_getElem? he) hattendu hrep ⟨c, form, true, ha⟩)
  detenu := hdetenu
  jeton := h.jeton
  envois e' he' := by
    rcases mem_modify he' with he' | ⟨x, hx, rfl⟩
    · exact (h.envois e' he').mono htenu
    · obtain rfl := Option.some.inj (he.symm.trans hx)
      have hsuivi := (h.envois e (List.mem_of_getElem? he)).mono htenu
      refine ⟨hsuivi.jeton, fun rep' hrep' hsucces => ?_, hsuivi.email⟩
      obtain rfl := Option.some.inj hrep'
      exact hvraie hsucces
  abandon e' he' hattendu hnone hsave := by
    rcases mem_modify he' with he' | ⟨x, hx, rfl⟩
    · exact h.abandon e' he' hattendu hnone hsave
    · cases hnone
  forkJoins n q rep' hrep' := (h.forkJoins n q rep' hrep').mono htenu
  composants c := (h.composants c).mono htenu
  sauves e' he' := by
    rcases mem_modify he' with he' | ⟨x, hx, rfl⟩
    · exact h.sauves e' he'
    · exact h.sauves x (List.mem_of_getElem? hx)
  rattache hlog := by
    refine ⟨fun e' he' => ?_, (h.rattache hlog).libres⟩
    rcases mem_modify he' with he' | ⟨x, hx, rfl⟩
    · exact (h.rattache hlog).envois e' he'
    · exact (h.rattache hlog).envois x (List.mem_of_getElem? hx)

/-- A request whose answer changes no account. -/
theorem repondu_sans_effet (h : Suivi M u j tenu σ) {i : ℕ} {e : EnvoiProfil}
    (he : σ.envois[i]? = some e) (hrep : e.reponse = none) {s : Tables} {rep : ReponseLue}
    (hvraie : rep.succes = true → Vraie M u j tenu rep e.appel)
    (hcomptes : s.utilisateur = σ.tables.utilisateur) (hkey : s.emailKey = σ.tables.emailKey) :
    Suivi M u j tenu { σ with
      tables := s, envois := σ.envois.modify i fun e => { e with reponse := some rep } } := by
  have hmeme : s.memeEmail = σ.tables.memeEmail := by
    unfold Tables.memeEmail
    rw [hkey]
  refine h.repondu he hrep id (Or.inl rfl) hvraie ?_ ?_
  · rw [hcomptes, hmeme]
    exact h.detenu
  · rw [hcomptes]
    exact h.compte

/-- The form of the page is served. -/
theorem repondu_form (h : Suivi M u j tenu σ) {i : ℕ} {e : EnvoiProfil}
    (he : σ.envois[i]? = some e) (hrep : e.reponse = none) {c : ℕ} {form : FormProfil}
    {emailChanged : Bool} (ha : e.appel = .updateProfile c form emailChanged)
    {row : UtilisateurRow} (hrow : σ.tables.utilisateur.find u = some row)
    (hemail : tenu → row.email = j.username) {out : Tables × Reponse}
    (hout : IssueForm σ.tables row form out) (hisole : Isole u σ.tables out.1) (hM : M out.1) :
    ∃ tenu', Suivi M u j tenu' { σ with
      tables := out.1
      envois := σ.envois.modify i fun e => { e with reponse := some (out.2.lue u out.1) } } := by
  obtain rfl : row.id = u := Table.key_of_find hrow
  cases hout with
  | refus hrefus =>
    refine ⟨tenu, h.repondu_sans_effet he hrep (fun hsucces => ?_) rfl rfl⟩
    rw [hrefus] at hsucces
    cases hsucces
  | enregistre hok =>
    set s := avecProfil σ.tables row form.email (some form.adressePostale) (some form.numTel)
    have hnew : s.utilisateur.find row.id
        = some (profilGarde row form.email (some form.adressePostale) (some form.numTel)) :=
      find_avecProfil hrow _ _ _
    have hdetenu : ∀ x ∈ s.utilisateur.rows, s.memeEmail x.email j.username = true →
        x.id = row.id := by
      intro x hx hx'
      by_contra hne
      exact hne (h.detenu x ((hisole.comptes x hne).mp hx) hx')
    cases emailChanged with
    | true =>
      refine ⟨False, h.repondu he hrep False.elim (Or.inr ⟨rfl, c, form, ha⟩) (fun _ => ?_) hdetenu
        ⟨_, hnew, False.elim⟩⟩
      rw [ha]
      trivial
    | false =>
      -- the form sends the email of the token, and the column keeps it
      have hsame := (h.envois e (List.mem_of_getElem? he)).email c form ha
      refine ⟨tenu, h.repondu he hrep id (Or.inl rfl) (fun _ => ?_) hdetenu
        ⟨_, hnew, fun ht => ?_⟩⟩
      · rw [ha]
        exact ⟨_, rfl, ⟨s, _, _, hM, hnew, montrable_profilGarde hok.1, rfl⟩,
          fun ht => congrArg some (hsame ht)⟩
      · show garde (couper 180) (some row.email) form.email = j.username
        rw [hsame ht, hemail ht, garde_self]

/-- **A request is served.** -/
theorem servir (api : Api) (h : Suivi M u j tenu σ) (i : ℕ) (hM : M σ.tables)
    (hM' : M (σ.servir api i).tables) : ∃ tenu', Suivi M u j tenu' (σ.servir api i) := by
  unfold Espace.servir at hM' ⊢
  cases he : σ.envois[i]? with
  | none => exact ⟨tenu, h⟩
  | some e =>
    rw [he] at hM'
    dsimp only at hM' ⊢
    split_ifs at hM' ⊢ with hrep
    swap
    · exact ⟨tenu, h⟩
    unfold Espace.repondre at hM' ⊢
    cases hrow : e.jeton.bind (authentifierApi σ.tables σ.horloge) with
    | none =>
      refine ⟨tenu, h.repondu_sans_effet he hrep (fun hsucces => ?_) rfl rfl⟩
      cases hsucces
    | some row =>
      obtain ⟨hfind, rfl, hemail⟩ := h.authentifie (List.mem_of_getElem? he) hrow
      rw [hrow] at hM'
      dsimp only at hM' ⊢
      cases ha : e.appel with
      | partie n q =>
        obtain ⟨hemprunts, hreservations, huser⟩ := repondre_partie api hfind n
        have hapres : (AppelProfil.partie n q).appel.apres api row.id σ.tables = σ.tables := by
          cases q with
          | empruntsData => exact after_get api .mesEmprunts
          | reservationsData => exact after_get api .mesReservations
          | userData => exact after_get api .me
        refine ⟨tenu, h.repondu_sans_effet he hrep (fun _ => ?_) (by rw [hapres])
          (by rw [hapres])⟩
        rw [ha]
        cases q with
        | empruntsData =>
          rw [hemprunts]
          exact ⟨σ.tables, hM, rfl⟩
        | reservationsData =>
          rw [hreservations]
          exact ⟨σ.tables, hM, rfl⟩
        | userData =>
          rw [huser]
          exact ⟨_, rfl, ⟨σ.tables, row, row, hM, hfind, montrable_self row, rfl⟩,
            fun ht => congrArg some (hemail ht)⟩
      | updateProfile c form emailChanged =>
        rw [ha] at hM'
        exact h.repondu_form he hrep ha hfind hemail (issueForm_updateMe hfind form)
          (isole_updateMe form.json) hM'
      | annulerReservation c id =>
        obtain ⟨hcomptes, hkey⟩ := utilisateur_delete (s := σ.tables) (u := row.id) id
        refine ⟨tenu, h.repondu_sans_effet he hrep (fun _ => ?_) hcomptes hkey⟩
        rw [ha]
        trivial

/-! ### The other steps -/

/-- The page is opened. -/
theorem ngOnInit (h : Suivi M u j tenu σ) : Suivi M u j tenu σ.ngOnInit := by
  unfold Espace.ngOnInit
  split_ifs with hlog
  · have hvide : ComposantSuivi M u j tenu .constructeur :=
      ⟨fun _ => ⟨rfl, rfl⟩, fun hne => absurd rfl hne, fun hne => absurd rfl hne,
        fun _ hx => by cases hx⟩
    -- the new component is one of those that show nothing yet
    have hlibre := (h.rattache hlog).libres σ.nbComposants le_rfl
    have hnouveau := h.modifier σ.nbComposants (f := fun _ => .constructeur) hvide
      (Or.inl hlibre.symm)
    refine refreshData ?_ _ fun _ => Nat.lt_succ_self _
    refine ⟨hnouveau.compte, hnouveau.fini, hnouveau.detenu, hnouveau.jeton, hnouveau.envois,
      hnouveau.abandon, hnouveau.forkJoins, hnouveau.composants, hnouveau.sauves, fun _ => ?_⟩
    obtain ⟨henvois, hlibres⟩ := hnouveau.rattache hlog
    exact ⟨fun e he => Nat.lt_succ_of_lt (henvois e he),
      fun c hc => hlibres c (Nat.le_of_succ_le hc)⟩
  · exact h

/-- The form is sent: where it has the email that the page shows, that is the email of the
token. -/
theorem onSaveProfil (h : Suivi M u j tenu σ) (hpage : 0 < σ.nbComposants) :
    Suivi M u j tenu σ.onSaveProfil := by
  have hcomposant := h.composants σ.affiche
  have hmodifier := h.modifier σ.affiche (f := fun p => { p with
    successMessage := "", errorMessageProfil := "" }) (hcomposant.congr rfl rfl rfl) (Or.inl rfl)
  refine hmodifier.envoyer (fun c form heq => ?_) fun _ => Nat.sub_lt hpage Nat.one_pos
  obtain ⟨rfl, rfl, hchanged⟩ := AppelProfil.updateProfile.inj heq
  unfold Profil.emailChanged at hchanged
  rw [bne_eq_false_iff_eq, Option.bind_eq_some_iff] at hchanged
  obtain ⟨x, hx, hemail⟩ := hchanged
  refine ⟨?_, fun ht => Option.some.inj (hemail.symm.trans ((hcomposant.user x hx).2 ht))⟩
  rw [Espace.modifier_self]
  exact fun hnone => by rw [hx] at hnone; cases hnone

end Suivi

/-- A step of others neither deletes nor renames the account and does not give the email to
another one; and the answer to the form is not lost. -/
def PasProfil.Discret (services : Services) (u : ℕ) (email : String) (σ : Espace) :
    PasProfil → Prop
  | .autre r =>
    ((r.apres services σ.tables).utilisateur.find u).map UtilisateurRow.email
        = (σ.tables.utilisateur.find u).map UtilisateurRow.email ∧
      SansReprise services email u σ.tables r
  | .perdre i => ∀ e, σ.envois[i]? = some e → ∀ c form b, e.appel ≠ .updateProfile c form b
  | _ => True

namespace Suivi

variable {M : Tables → Prop} {u : ℕ} {j : Jeton} {tenu : Prop} {σ : Espace}

/-- Another request is served. -/
theorem autre (services : Services) (h : Suivi M u j tenu σ) (r : Requete)
    (hok : (PasProfil.autre r).Discret services u j.username σ) :
    Suivi M u j tenu { σ with tables := r.apres services σ.tables } := by
  obtain ⟨hemail, hreprise⟩ := hok
  obtain ⟨row, hrow, htenu⟩ := h.compte
  have hdetenu : Detenu σ.tables u j.username :=
    ⟨Table.key_of_find hrow ▸ σ.tables.utilisateur.lt_next row (Table.mem_of_find hrow), h.detenu⟩
  refine ⟨?_, h.fini, (hdetenu.apres services r hreprise).id_eq, h.jeton, h.envois, h.abandon,
    h.forkJoins, h.composants, h.sauves,
    fun hlog => ⟨(h.rattache hlog).envois, (h.rattache hlog).libres⟩⟩
  rw [hrow, Option.map_some, Option.map_eq_some_iff] at hemail
  obtain ⟨row', hrow', hsame⟩ := hemail
  exact ⟨row', hrow', fun ht => hsame.trans (htenu ht)⟩

/-- **One step.** -/
theorem step (services : Services) (api : Api) (h : Suivi M u j tenu σ) (p : PasProfil)
    (hM : M σ.tables) (hM' : M (σ.step services api p).tables)
    (hok : p.Discret services u j.username σ) :
    ∃ tenu', Suivi M u j tenu' (σ.step services api p) := by
  have hpage : ∀ suite : Espace, (0 < σ.nbComposants → Suivi M u j tenu suite) →
      Suivi M u j tenu (σ.surPage suite) := by
    intro suite hsuite
    unfold Espace.surPage
    split_ifs with hpage
    · exact hsuite hpage
    · exact h
  cases p with
  | servir i => exact h.servir api i hM hM'
  | ngOnInit => exact ⟨tenu, h.ngOnInit⟩
  | saisir form =>
    exact ⟨tenu, hpage _ fun _ =>
      h.modifier σ.affiche ((h.composants σ.affiche).congr rfl rfl rfl) (Or.inl rfl)⟩
  | onSaveProfil => exact ⟨tenu, hpage _ h.onSaveProfil⟩
  | onAnnuler id =>
    exact ⟨tenu, hpage _ fun hpage =>
      h.envoyer (fun c form heq => by cases heq) fun _ => Nat.sub_lt hpage Nat.one_pos⟩
  | logout => exact ⟨tenu, h.logout⟩
  | oublier => exact ⟨tenu, h.sansJeton⟩
  | recevoir i => exact ⟨tenu, h.recevoir i⟩
  | perdre i => exact ⟨tenu, h.perdre hok⟩
  | autre r => exact ⟨tenu, h.autre services r hok⟩
  | attendre duree =>
    exact ⟨tenu, h.compte, h.fini, h.detenu, h.jeton, h.envois, h.abandon, h.forkJoins,
      h.composants, h.sauves, fun hlog => ⟨(h.rattache hlog).envois, (h.rattache hlog).libres⟩⟩

end Suivi

/-! ### Runs -/

end Biblio
