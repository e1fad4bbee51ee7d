import Biblio.Equiv.Isolation
import Biblio.Equiv.Profile
import Biblio.Profil

/-!
# The page of a member and the API

What holds of the component `Profil` in every run, whatever the order in which its requests are
served and answered, or lost.

* `profile_spinner`: the page shows that it is loading only while a request of `refreshData` is
  awaited, so it never does so for good.
-/

namespace Biblio

namespace Espace

variable {σ : Espace}

/-! ### Requests that are awaited -/

/-- The client waits for the answer of a request. -/
def Attend (σ : Espace) (a : AppelProfil) : Prop :=
  ∃ (i : ℕ) (e : EnvoiProfil), σ.envois[i]? = some e ∧ e.attendu = true ∧ e.appel = a

theorem attend_envoyer_self (σ : Espace) (a : AppelProfil) : (σ.envoyer a).Attend a :=
  ⟨σ.envois.length, ⟨a, σ.jwtToken, none, true⟩, List.getElem?_concat_length, rfl, rfl⟩

theorem Attend.envoyer {a : AppelProfil} (h : σ.Attend a) (b : AppelProfil) :
    (σ.envoyer b).Attend a := by
  obtain ⟨i, e, he, hattendu, rfl⟩ := h
  have hi : i < σ.envois.length := (List.getElem?_eq_some_iff.mp he).1
  refine ⟨i, e, ?_, hattendu, rfl⟩
  rw [← he]
  exact List.getElem?_append_left hi

/-- One request is over: the others are still awaited. -/
theorem Attend.clore {a : AppelProfil} (h : σ.Attend a) {i : ℕ} {e : EnvoiProfil}
    (he : σ.envois[i]? = some e) (hne : e.appel ≠ a) : (σ.clore i).Attend a := by
  obtain ⟨k, e', he', hattendu, rfl⟩ := h
  have hik : i ≠ k := by
    rintro rfl
    exact hne (congrArg EnvoiProfil.appel (Option.some.inj (he.symm.trans he')))
  refine ⟨k, e', ?_, hattendu, rfl⟩
  show (σ.envois.modify i _)[k]? = some e'
  rw [List.getElem?_modify, he']
  simp only [if_neg hik]
  rfl

/-- A `forkJoin` is over: the parts of the others are still awaited. -/
theorem Attend.fermer {m n : ℕ} {q : Partie} (h : σ.Attend (.partie m q)) (hne : m ≠ n) :
    (σ.fermer n).Attend (.partie m q) := by
  obtain ⟨k, e, he, hattendu, ha⟩ := h
  refine ⟨k, e, ?_, hattendu, ha⟩
  show (σ.envois.map _)[k]? = some e
  rw [List.getElem?_map, he, Option.map_some, ha]
  simp only [if_neg hne]

/-- The service of a request does not end the wait for it. -/
theorem Attend.servir (api : Api) {a : AppelProfil} (h : σ.Attend a) (i : ℕ) :
    (σ.servir api i).Attend a := by
  unfold Espace.servir
  split
  · next e₀ _ =>
    split_ifs
    · obtain ⟨k, e, he, hattendu, rfl⟩ := h
      refine ⟨k, if i = k then { e with reponse := some (σ.repondre api e₀).2 } else e, ?_, ?_, ?_⟩
      · show (σ.envois.modify i _)[k]? = _
        rw [List.getElem?_modify, he]
        rfl
      · split_ifs <;> exact hattendu
      · split_ifs <;> rfl
    · exact h
  · exact h

/-! ### The components -/

theorem modifier_self (σ : Espace) (c : ℕ) (f : Profil → Profil) :
    (σ.modifier c f).composants c = f (σ.composants c) :=
  Function.update_self ..

theorem modifier_of_ne (σ : Espace) {c d : ℕ} (f : Profil → Profil) (h : d ≠ c) :
    (σ.modifier c f).composants d = σ.composants d :=
  Function.update_of_ne h ..

/-! ### The state of the refreshes -/

/-- A page that is loading has a `forkJoin` that is not over; one that is not over, those of `sauf`
apart, lacks a part, and all the parts it lacks are awaited. -/
structure Charge (sauf : ℕ → Prop) (σ : Espace) : Prop where
  neufs : ∀ n, σ.nbForkJoins ≤ n → (σ.forkJoins n).ouvert = false
  chargement : ∀ c < σ.nbComposants, (σ.composants c).isLoading = true →
    ∃ n, (σ.forkJoins n).ouvert = true ∧ (σ.forkJoins n).composant = c
  incomplet : ∀ n, ¬ sauf n → (σ.forkJoins n).ouvert = true →
    ∃ q, (σ.forkJoins n).recues q = none
  parties : ∀ n, ¬ sauf n → (σ.forkJoins n).ouvert = true → ∀ q,
    (σ.forkJoins n).recues q = none → σ.Attend (.partie n q)

/-- No exception. -/
def aucun : ℕ → Prop := fun _ => False

variable {sauf : ℕ → Prop}

/-- The exception meets the conditions. -/
theorem Charge.complet {n : ℕ} (h : σ.Charge (· = n)) (hincomplet : (σ.forkJoins n).ouvert = true →
    ∃ q, (σ.forkJoins n).recues q = none) (hparties : (σ.forkJoins n).ouvert = true → ∀ q,
    (σ.forkJoins n).recues q = none → σ.Attend (.partie n q)) : σ.Charge aucun where
  neufs := h.neufs
  chargement := h.chargement
  incomplet m _ hopen := by
    by_cases hm : m = n
    · subst hm
      exact hincomplet hopen
    · exact h.incomplet m hm hopen
  parties m _ hopen := by
    by_cases hm : m = n
    · subst hm
      exact hparties hopen
    · exact h.parties m hm hopen

/-- A component changes, and is loading only if it was. -/
theorem Charge.modifier (h : σ.Charge sauf) (c : ℕ) {f : Profil → Profil}
    (hf : ∀ p, (f p).isLoading = true → p.isLoading = true) : (σ.modifier c f).Charge sauf where
  neufs := h.neufs
  chargement d hd hloading := by
    refine h.chargement d hd ?_
    by_cases hdc : d = c
    · subst hdc
      rw [modifier_self] at hloading
      exact hf _ hloading
    · rw [modifier_of_ne σ f hdc] at hloading
      exact hloading
  incomplet := h.incomplet
  parties := h.parties

theorem Charge.envoyer (h : σ.Charge sauf) (a : AppelProfil) : (σ.envoyer a).Charge sauf where
  neufs := h.neufs
  chargement := h.chargement
  incomplet := h.incomplet
  parties n hn hopen q hq := (h.parties n hn hopen q hq).envoyer a

theorem forkJoin_self (σ : Espace) (c : ℕ) (f : Profil → Profil) :
    ((σ.modifier c f).forkJoin c).forkJoins σ.nbForkJoins = ⟨c, fun _ => none, true⟩ :=
  Function.update_self ..

theorem forkJoin_of_ne (σ : Espace) (c : ℕ) (f : Profil → Profil) {n : ℕ}
    (h : n ≠ σ.nbForkJoins) : ((σ.modifier c f).forkJoin c).forkJoins n = σ.forkJoins n :=
  Function.update_of_ne h ..

/-- A new `forkJoin` makes up for the loading of its component. -/
theorem Charge.forkJoin (h : σ.Charge aucun) (c : ℕ) {f : Profil → Profil} :
    ((σ.modifier c f).forkJoin c).Charge (· = σ.nbForkJoins) where
  neufs n hn := by
    have hlt : σ.nbForkJoins + 1 ≤ n := hn
    rw [forkJoin_of_ne σ c f (by omega)]
    exact h.neufs n (by omega)
  chargement d hd hloading := by
    by_cases hdc : d = c
    · have hself := forkJoin_self σ c f
      refine ⟨σ.nbForkJoins, ?_, ?_⟩
      · exact congrArg ForkJoin.ouvert hself
      · exact (congrArg ForkJoin.composant hself).trans hdc.symm
    · have hbefore : (σ.composants d).isLoading = true := by
        rw [← modifier_of_ne σ f hdc]
        exact hloading
      obtain ⟨n, hopen, hn⟩ := h.chargement d hd hbefore
      have hne : n ≠ σ.nbForkJoins := by
        rintro rfl
        rw [h.neufs _ le_rfl] at hopen
        cases hopen
      refine ⟨n, ?_, ?_⟩
      · rw [forkJoin_of_ne σ c f hne]
        exact hopen
      · rw [forkJoin_of_ne σ c f hne]
        exact hn
  incomplet n hn hopen := by
    rw [forkJoin_of_ne σ c f hn] at hopen ⊢
    exact h.incomplet n id hopen
  parties n hn hopen q hq := by
    rw [forkJoin_of_ne σ c f hn] at hopen hq
    exact h.parties n id hopen q hq

/-- `refreshData` waits for its three parts. -/
theorem Charge.refreshData (h : σ.Charge aucun) (c : ℕ) : (σ.refreshData c).Charge aucun := by
  unfold Espace.refreshData
  split_ifs
  · refine (((h.forkJoin c).envoyer _).envoyer _).envoyer _ |>.complet
      (fun _ => ⟨.userData, ?_⟩) fun _ q _ => ?_
    · exact congrFun (congrArg ForkJoin.recues (forkJoin_self σ c _)) .userData
    · cases q with
      | empruntsData => exact ((attend_envoyer_self ..).envoyer _).envoyer _
      | reservationsData => exact (attend_envoyer_self ..).envoyer _
      | userData => exact attend_envoyer_self ..
  · refine h.modifier c fun _ hp => ?_
    cases hp

theorem fermer_self (σ : Espace) (n : ℕ) : ((σ.fermer n).forkJoins n).ouvert = false := by
  show (Function.update σ.forkJoins n _ n).ouvert = false
  rw [Function.update_self]

theorem fermer_of_ne (σ : Espace) {m n : ℕ} (h : m ≠ n) :
    (σ.fermer n).forkJoins m = σ.forkJoins m :=
  Function.update_of_ne h ..

theorem fermer_recues (σ : Espace) (m n : ℕ) :
    ((σ.fermer n).forkJoins m).recues = (σ.forkJoins m).recues := by
  by_cases hm : m = n
  · subst hm
    show (Function.update σ.forkJoins m _ m).recues = _
    rw [Function.update_self]
  · rw [fermer_of_ne σ hm]

/-- A `forkJoin` ends, and with it the loading of its component. -/
theorem Charge.fermer {n : ℕ} (h : σ.Charge (· = n)) {f : Profil → Profil}
    (hf : ∀ p, (f p).isLoading = false) :
    ((σ.fermer n).modifier (σ.forkJoins n).composant f).Charge aucun where
  neufs m hm := by
    show ((σ.fermer n).forkJoins m).ouvert = false
    by_cases hmn : m = n
    · rw [hmn, fermer_self]
    · rw [fermer_of_ne σ hmn]
      exact h.neufs m hm
  chargement d hd hloading := by
    by_cases hdc : d = (σ.forkJoins n).composant
    · rw [hdc, modifier_self, hf] at hloading
      cases hloading
    · rw [modifier_of_ne _ f hdc] at hloading
      obtain ⟨m, hopen, hm⟩ := h.chargement d hd hloading
      have hmn : m ≠ n := by
        rintro rfl
        exact hdc hm.symm
      refine ⟨m, ?_, ?_⟩
      · show ((σ.fermer n).forkJoins m).ouvert = true
        rw [fermer_of_ne σ hmn, hopen]
      · show ((σ.fermer n).forkJoins m).composant = d
        rw [fermer_of_ne σ hmn, hm]
  incomplet m _ hopen := by
    have hmn : m ≠ n := by
      rintro rfl
      exact absurd hopen (Bool.not_eq_true _ ▸ fermer_self σ m)
    have hsame := fermer_of_ne σ hmn
    obtain ⟨q, hq⟩ := h.incomplet m hmn (by rw [← hsame]; exact hopen)
    exact ⟨q, by rw [← hsame] at hq; exact hq⟩
  parties m _ hopen q hq := by
    have hmn : m ≠ n := by
      rintro rfl
      exact absurd hopen (Bool.not_eq_true _ ▸ fermer_self σ m)
    have hsame := fermer_of_ne σ hmn
    have hattend := h.parties m hmn (by rw [← hsame]; exact hopen) q (by rw [← hsame]; exact hq)
    exact hattend.fermer hmn

/-- The arrival of an answer leaves one part less to wait for. -/
theorem Charge.clore (h : σ.Charge aucun) {i n : ℕ} {e : EnvoiProfil} (he : σ.envois[i]? = some e)
    (hsauf : ∀ m q, e.appel = .partie m q → m = n) : (σ.clore i).Charge (· = n) where
  neufs := h.neufs
  chargement := h.chargement
  incomplet m _ hopen := h.incomplet m id hopen
  parties m hm hopen q hq :=
    (h.parties m id hopen q hq).clore he fun heq => hm (hsauf m q heq)

/-- The end of a request that is no part of a `forkJoin`. -/
theorem Charge.clore_autre (h : σ.Charge aucun) {i : ℕ} {e : EnvoiProfil}
    (he : σ.envois[i]? = some e) (hautre : ∀ m q, e.appel ≠ .partie m q) :
    (σ.clore i).Charge aucun where
  neufs := h.neufs
  chargement := h.chargement
  incomplet := h.incomplet
  parties m hm hopen q hq := (h.parties m hm hopen q hq).clore he (hautre m q)

theorem noter_self (σ : Espace) (n : ℕ) (q : Partie) (rep : ReponseLue) :
    (σ.noter n q rep).forkJoins n =
      { σ.forkJoins n with recues := Function.update (σ.forkJoins n).recues q (some rep) } :=
  Function.update_self ..

theorem noter_of_ne (σ : Espace) {m n : ℕ} (q : Partie) (rep : ReponseLue) (h : m ≠ n) :
    (σ.noter n q rep).forkJoins m = σ.forkJoins m :=
  Function.update_of_ne h ..

/-- An answer that is kept neither opens nor ends a `forkJoin`. -/
theorem noter_ouvert (σ : Espace) (m n : ℕ) (q : Partie) (rep : ReponseLue) :
    ((σ.noter n q rep).forkJoins m).ouvert = (σ.forkJoins m).ouvert ∧
      ((σ.noter n q rep).forkJoins m).composant = (σ.forkJoins m).composant := by
  by_cases hm : m = n
  · rw [hm, noter_self]
    exact ⟨rfl, rfl⟩
  · rw [noter_of_ne σ q rep hm]
    exact ⟨rfl, rfl⟩

theorem Charge.noter {n : ℕ} (h : σ.Charge (· = n)) (q : Partie) (rep : ReponseLue) :
    (σ.noter n q rep).Charge (· = n) where
  neufs m hm := by
    rw [(noter_ouvert σ m n q rep).1]
    exact h.neufs m hm
  chargement d hd hloading := by
    obtain ⟨m, hopen, hm⟩ := h.chargement d hd hloading
    obtain ⟨houvert, hcomposant⟩ := noter_ouvert σ m n q rep
    exact ⟨m, houvert.trans hopen, hcomposant.trans hm⟩
  incomplet m hm hopen := by
    rw [noter_of_ne σ q rep hm] at hopen ⊢
    exact h.incomplet m hm hopen
  parties m hm hopen q' hq' := by
    rw [noter_of_ne σ q rep hm] at hopen hq'
    exact h.parties m hm hopen q' hq'

/-- A `forkJoin` without result lacks a part. -/
theorem exists_none_of_results {f : ForkJoin} (h : f.results = none) : ∃ q, f.recues q = none := by
  by_contra hall
  rw [not_exists] at hall
  obtain ⟨emprunts, hemprunts⟩ := Option.ne_none_iff_exists'.mp (hall .empruntsData)
  obtain ⟨reservations, hreservations⟩ := Option.ne_none_iff_exists'.mp (hall .reservationsData)
  obtain ⟨user, huser⟩ := Option.ne_none_iff_exists'.mp (hall .userData)
  unfold ForkJoin.results at h
  rw [hemprunts, hreservations, huser] at h
  cases h

/-- A part arrives. -/
theorem Charge.partieNext {n : ℕ} {q : Partie} (h : σ.Charge (· = n)) (rep : ReponseLue)
    (hparties : (σ.forkJoins n).ouvert = true → ∀ q' ≠ q, (σ.forkJoins n).recues q' = none →
      σ.Attend (.partie n q')) : (σ.partieNext n q rep).Charge aucun := by
  unfold Espace.partieNext
  dsimp only
  split
  · exact (h.noter q rep).fermer fun _ => rfl
  · next hresults =>
    refine (h.noter q rep).complet (fun _ => exists_none_of_results hresults) fun hopen q' hq' => ?_
    rw [noter_self] at hopen hq'
    have hne : q' ≠ q := by
      rintro rfl
      dsimp only at hq'
      rw [Function.update_self] at hq'
      cases hq'
    dsimp only at hq'
    rw [Function.update_of_ne hne] at hq'
    exact hparties hopen q' hne hq'

/-- Nothing is loading after a logout. -/
theorem Charge.logout (σ : Espace) : σ.logout.Charge aucun where
  neufs _ _ := rfl
  chargement c hc := absurd hc (Nat.not_lt_zero c)
  incomplet _ _ hopen := by cases hopen
  parties _ _ hopen := by cases hopen

/-- The answer of a request arrives with a success. -/
theorem Charge.next (h : σ.Charge aucun) {i : ℕ} {e : EnvoiProfil} (he : σ.envois[i]? = some e)
    (rep : ReponseLue) : ((σ.clore i).next rep e.appel).Charge aucun := by
  cases ha : e.appel with
  | partie n q =>
    refine (h.clore he fun m q' heq => ?_).partieNext rep fun hopen q' hne hq' => ?_
    · rw [ha] at heq
      exact (AppelProfil.partie.inj heq).1.symm
    · refine (h.parties n id hopen q' hq').clore he fun heq => hne ?_
      rw [ha] at heq
      exact (AppelProfil.partie.inj heq).2.symm
  | updateProfile c form emailChanged =>
    have hclos := h.clore_autre he fun m q heq => by rw [ha] at heq; cases heq
    show (if emailChanged = true then (σ.clore i).logout
      else (σ.clore i).modifier c fun p => Profil.onSaveProfil.next p rep.compte).Charge aucun
    split_ifs
    · exact .logout _
    · exact hclos.modifier c fun _ => id
  | annulerReservation c id =>
    exact (h.clore_autre he fun m q heq => by rw [ha] at heq; cases heq).refreshData c

/-- It arrives with an error, or is lost. -/
theorem Charge.error (h : σ.Charge aucun) {i : ℕ} {e : EnvoiProfil} (he : σ.envois[i]? = some e)
    (status : ℕ) : ((σ.clore i).error status e.appel).Charge aucun := by
  cases ha : e.appel with
  | partie n q =>
    refine (h.clore he fun m q' heq => ?_).fermer fun _ => rfl
    rw [ha] at heq
    exact (AppelProfil.partie.inj heq).1.symm
  | updateProfile c form emailChanged =>
    have hclos := h.clore_autre he fun m q heq => by rw [ha] at heq; cases heq
    refine hclos.modifier c (f := fun p => Profil.onSaveProfil.error p status) fun p hp => ?_
    unfold Profil.onSaveProfil.error at hp
    split_ifs at hp <;> exact hp
  | annulerReservation c id =>
    exact h.clore_autre he fun m q heq => by rw [ha] at heq; cases heq

/-- What the interceptor and the requests of others change is no part of it. -/
theorem Charge.congr {σ' : Espace} (h : σ.Charge aucun) (hcomposants : σ'.composants = σ.composants)
    (hnb : σ'.nbComposants = σ.nbComposants) (hforkJoins : σ'.forkJoins = σ.forkJoins)
    (hnbForkJoins : σ'.nbForkJoins = σ.nbForkJoins) (henvois : ∀ a, σ.Attend a → σ'.Attend a) :
    σ'.Charge aucun where
  neufs := by
    rw [hforkJoins, hnbForkJoins]
    exact h.neufs
  chargement := by
    rw [hcomposants, hnb, hforkJoins]
    exact h.chargement
  incomplet := by
    rw [hforkJoins]
    exact h.incomplet
  parties := by
    rw [hforkJoins]
    exact fun n hn hopen q hq => henvois _ (h.parties n hn hopen q hq)

theorem intercepter_envois (σ : Espace) (status : ℕ) :
    (σ.intercepter status).envois = σ.envois := by
  unfold intercepter
  split_ifs <;> rfl

theorem intercepter_clore (σ : Espace) (status i : ℕ) :
    (σ.clore i).intercepter status = (σ.intercepter status).clore i := by
  unfold intercepter
  split_ifs <;> rfl

theorem Charge.intercepter (h : σ.Charge aucun) (status : ℕ) :
    (σ.intercepter status).Charge aucun := by
  unfold Espace.intercepter
  split_ifs
  · exact h.congr rfl rfl rfl rfl fun _ => id
  · exact h

theorem Charge.recevoir (h : σ.Charge aucun) (i : ℕ) : (σ.recevoir i).Charge aucun := by
  unfold Espace.recevoir
  split
  · next appel jeton rep he =>
    split_ifs
    · exact h.next he rep
    · rw [intercepter_clore]
      refine (h.intercepter rep.status).error (e := ⟨appel, jeton, some rep, true⟩) ?_ rep.status
      rw [intercepter_envois]
      exact he
  · exact h

theorem Charge.perdre (h : σ.Charge aucun) (i : ℕ) : (σ.perdre i).Charge aucun := by
  unfold Espace.perdre
  split
  · next he => exact h.error he 0
  · exact h

theorem Charge.servir (api : Api) (h : σ.Charge aucun) (i : ℕ) : (σ.servir api i).Charge aucun := by
  refine h.congr ?_ ?_ ?_ ?_ fun a ha => ha.servir api i
  all_goals
    unfold Espace.servir
    split
    · split_ifs <;> rfl
    · rfl

/-- `refreshData` does not depend on whether the component is loading. -/
theorem refreshData_modifier (hlog : σ.isLoggedIn = true) (c : ℕ) :
    (σ.modifier c fun p => { p with isLoading := false }).refreshData c = σ.refreshData c := by
  have hmodifier : ((σ.modifier c fun p => { p with isLoading := false }).modifier c
      fun p => { p with isLoading := true })
        = σ.modifier c fun p => { p with isLoading := true } := by
    simp only [modifier, Function.update_idem, Function.update_self]
  unfold Espace.refreshData
  rw [hmodifier, if_pos hlog, if_pos (show (σ.modifier c _).isLoggedIn = true from hlog)]
  rfl

/-- The page is opened. -/
theorem Charge.ngOnInit (h : σ.Charge aucun) : σ.ngOnInit.Charge aucun := by
  unfold Espace.ngOnInit
  split_ifs with hlog
  · rw [← refreshData_modifier (σ := σ.nouveau) hlog]
    refine Charge.refreshData ?_ _
    refine ⟨h.neufs, fun c hc hloading => ?_, h.incomplet, h.parties⟩
    have hne : c ≠ σ.nbComposants := by
      rintro rfl
      rw [modifier_self] at hloading
      cases hloading
    rw [modifier_of_ne _ _ hne] at hloading
    have hbefore : (σ.composants c).isLoading = true := by
      rw [← modifier_of_ne σ (fun _ => .constructeur) hne]
      exact hloading
    have hlt : c < σ.nbComposants + 1 := hc
    exact h.chargement c (by omega) hbefore
  · exact h

/-- **One step** keeps it. -/
theorem Charge.step (services : Services) (api : Api) (h : σ.Charge aucun) (pas : PasProfil) :
    (σ.step services api pas).Charge aucun := by
  have hpage : ∀ suite : Espace, suite.Charge aucun → (σ.surPage suite).Charge aucun := by
    intro suite hsuite
    unfold surPage
    split_ifs
    · exact hsuite
    · exact h
  cases pas with
  | ngOnInit => exact h.ngOnInit
  | saisir form => exact hpage _ (h.modifier _ fun _ => id)
  | onSaveProfil => exact hpage _ (Charge.envoyer (Charge.modifier h σ.affiche
    (f := fun p => { p with successMessage := "", errorMessageProfil := "" }) fun _ => id) _)
  | onAnnuler id => exact hpage _ (h.envoyer _)
  | logout => exact .logout σ
  | oublier => exact h.congr rfl rfl rfl rfl fun _ => id
  | servir i => exact h.servir api i
  | recevoir i => exact h.recevoir i
  | perdre i => exact h.perdre i
  | autre r => exact h.congr rfl rfl rfl rfl fun _ => id
  | attendre duree => exact h.congr rfl rfl rfl rfl fun _ => id

theorem charge_run (services : Services) (api : Api) (s : Tables) (now : Instant) (j : Jeton)
    (ps : List PasProfil) :
    (run (Espace.step services api) (.connecte s now j) ps).Charge aucun := by
  refine run_preserves (I := fun σ : Espace => σ.Charge aucun) _
    (fun σ p h => h.step services api p) ps _ ?_
  refine ⟨fun _ _ => rfl, fun c hc => absurd hc (Nat.not_lt_zero c), fun _ _ hopen => ?_,
    fun _ _ hopen => ?_⟩
  · cases hopen
  · cases hopen

end Espace

/-- **Loading.**  In every run, a component that shows that it is loading waits for the answer of
one of the requests of its `refreshData`. -/
theorem profile_spinner (services : Services) (api : Api) (s : Tables) (now : Instant) (j : Jeton)
    (ps : List PasProfil) :
    let σ := run (Espace.step services api) (.connecte s now j) ps
    ∀ c < σ.nbComposants, (σ.composants c).isLoading = true →
      ∃ e ∈ σ.envois, ∃ n q, e.attendu = true ∧ e.appel = .partie n q ∧
        (σ.forkJoins n).composant = c ∧ (σ.forkJoins n).recues q = none := by
  intro σ c hc hloading
  have h : σ.Charge Espace.aucun := Espace.charge_run services api s now j ps
  obtain ⟨n, hopen, hn⟩ := h.chargement c hc hloading
  obtain ⟨q, hq⟩ := h.incomplet n id hopen
  obtain ⟨i, e, he, hattendu, ha⟩ := h.parties n id hopen q hq
  exact ⟨e, List.mem_of_getElem? he, n, q, hattendu, ha, hn, hq⟩

end Biblio
