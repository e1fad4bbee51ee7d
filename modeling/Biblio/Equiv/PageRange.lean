import Biblio.Equiv.ListOrder
import Biblio.Equiv.PageNumber
import Biblio.Equiv.SearchText

/-!
# The page number of a list

`goToPage` checks its page against the number of pages of the last answer, and `loadLivres` sends
the text that is in the fields by then.  With a catalogue that does not change and answers in the
order of the calls, the page shown is one of the pages there are exactly in the runs in which every
`goToPage` that passes its check asks for a page that the search of the text in the fields has.  To
be exact, this counts the states that the run comes to once its calls are answered or lost
(`page_in_range_iff`); of the states of the run alone the condition is enough (`page_in_range`).

The API is seen through `Serveur`: it says how many rows match the criteria of a call and what the
answer for a page tells about them.  The invariant is `Liste.Reglee`.
-/

namespace Biblio

variable {κ β : Type}

/-! ### The API -/

/-- The answers to the calls of a list, where `n` counts the rows that match and `aucune` says that
there is none. -/
structure Serveur (repondre : Ordre → κ → ℤ → Retour β) (n : κ → ℕ) (aucune : κ → Prop) :
    Prop where
  admise : ∀ k (p : ℤ), 1 ≤ p → p ≤ pageCount limite (n k) → PageAdmise p
  repond : ∀ ordre k p, PageAdmise p → ∃ response, repondre ordre k p = .next response
  total : ∀ ordre k p response, PageAdmise p → repondre ordre k p = .next response →
    response.totalPages = pageCount limite (n k)
  vide : ∀ ordre k p response, repondre ordre k p = .next response → 1 ≤ p →
    p ≤ pageCount limite (n k) → response.data = [] → aucune k

/-- The searches of a table are such answers. -/
theorem serveur_of_recherche {ρ : Type} [Keyed ρ] {t : Table ρ} {ok : κ → ρ → Prop}
    [∀ k, DecidablePred (ok k)] {cle : β → ℕ} {ids : κ → List ℕ} {charger : κ → List ℕ → List β}
    (h : ∀ k, Recherche t (ok k) cle (ids k) (charger k)) {repondre : Ordre → κ → ℤ → Retour β}
    (hrepondre : ∀ ordre k p, PageAdmise p → ∀ response, repondre ordre k p = .next response ↔
      paginer ordre (ids k) (charger k) p limite = some response) :
    Serveur repondre (fun k => t.count fun r => ok k r) fun k => ∀ r ∈ t.rows, ¬ ok k r := by
  have hadmise : ∀ k (p : ℤ), 1 ≤ p → p ≤ pageCount limite (t.count fun r => ok k r) →
      PageAdmise p := by
    intro k p hp hle
    rw [← (h k).length_eq] at hle
    refine pageAdmise_iff_offset.mpr ⟨?_, offset_le (h k).length_le hle⟩
    unfold limite
    omega
  refine ⟨hadmise, ?_, ?_, ?_⟩
  · intro ordre k p hp
    obtain ⟨response, hresponse⟩ := exists_paginer_of_admise ordre (ids k) (charger k) hp
    exact ⟨response, (hrepondre ordre k p hp response).mpr hresponse⟩
  · intro ordre k p response hp hresponse
    rw [hrepondre ordre k p hp, paginer_eq ordre _ _ hp.1 (pageAdmise_iff_offset.mp hp).2]
      at hresponse
    obtain rfl := Option.some.inj hresponse
    rw [(ordre.perm (ids k)).length_eq, (h k).length_eq]
  · intro ordre k p response hresponse hp hle hdata
    have hadm := hadmise k p hp hle
    rw [hrepondre ordre k p hadm, paginer_eq ordre _ _ hp (pageAdmise_iff_offset.mp hadm).2]
      at hresponse
    obtain rfl := Option.some.inj hresponse
    have hdata : charger k (page limite p.toNat (ordre.lister (ids k))) = [] := hdata
    have hperm := (h k).charge.perm_page (h k).nodup ordre p.toNat
    have hlength := (ordre.perm (ids k)).length_eq
    rw [hdata, List.map_nil, List.nil_perm] at hperm
    rw [← (h k).length_eq] at hle
    have hnil := eq_nil_of_page_eq_nil (by decide) (by omega) (by rw [hlength]; omega) hperm
    intro r hr hok
    have hmem := (ordre.perm (ids k)).mem_iff.mpr (((h k).key_mem_iff hr).mpr hok)
    rw [hnil] at hmem
    cases hmem

theorem retour_repondrePage_iff {page : Option ℤ} {p : ℤ} (hp : page = some p)
    {index : ℤ → Option (Resultat β)} {response : Resultat β} :
    (repondrePage page index).retour = .next response ↔ index p = some response := by
  rw [hp, repondrePage]
  cases index p with
  | none =>
    constructor
    · intro h
      cases h
    · intro h
      cases h
  | some r => rw [ReponsePage.retour, Retour.next.injEq, Option.some.injEq]

/-- The text of a page that can be asked for is read as that page. -/
theorem PageAdmise.int {p : ℤ} (hp : PageAdmise p) : phpIntMin ≤ p ∧ p ≤ phpIntMax := by
  unfold PageAdmise at hp
  unfold phpIntMin phpIntMax
  omega

section Api

variable (strtod : String → ℤ) (like : String → String → Bool) (c : Catalogue)

/-- The number of books that match the text in the fields. -/
def LivresList.trouves (k : LivresList.Criteres) : ℕ :=
  c.livre.count fun l => Correspond like c (some k.searchTitre) (some k.searchAuteur)
    (some k.searchCategorie) l

def LivresList.Aucun (k : LivresList.Criteres) : Prop :=
  ∀ l ∈ c.livre.rows, ¬ Correspond like c (some k.searchTitre) (some k.searchAuteur)
    (some k.searchCategorie) l

theorem serveur_livres : Serveur (LivresList.repondre like c) (LivresList.trouves like c)
    (LivresList.Aucun like c) := by
  refine serveur_of_recherche
    (fun k : LivresList.Criteres => recherche_livres like c (some k.searchTitre)
      (some k.searchAuteur) (some k.searchCategorie))
    fun ordre k p hp response => ?_
  obtain ⟨htitre, hauteur, hcategorie⟩ :=
    get_getLivres k.searchTitre k.searchAuteur k.searchCategorie p
  refine (retour_repondrePage_iff (getInt_toString hp.int)).trans ?_
  show LivreController.index like ordre c
    (ApiService.getLivres k.searchTitre k.searchAuteur k.searchCategorie p) = some response ↔ _
  rw [LivreController.index, htitre, hauteur, hcategorie]
  rfl

/-- The number of authors that match the text in the field. -/
def AuteursList.trouves (k : AuteursList.Criteres) : ℕ :=
  c.auteur.count fun a => CorrespondAuteur like (some k.searchNom) a

def AuteursList.Aucun (k : AuteursList.Criteres) : Prop :=
  ∀ a ∈ c.auteur.rows, ¬ CorrespondAuteur like (some k.searchNom) a

theorem serveur_auteurs : Serveur (AuteursList.repondre strtod like c)
    (AuteursList.trouves like c) (AuteursList.Aucun like c) := by
  refine serveur_of_recherche
    (fun k : AuteursList.Criteres => recherche_auteurs like c (some k.searchNom))
    fun ordre k p hp response => ?_
  have hnom := get_getAuteurs k.searchNom p
  refine (retour_repondrePage_iff (castInt_toString hp.int strtod)).trans ?_
  show AuteurController.index like ordre c (ApiService.getAuteurs k.searchNom p) = some response ↔ _
  rw [AuteurController.index, hnom]
  rfl

end Api

/-! ### Calls in their order -/

namespace Liste

/-- The calls in flight are the last ones issued, in their order. -/
def Suite (emis : ℕ) : List (Demande κ) → Prop
  | [] => True
  | a :: l => a.numero + l.length = emis ∧ Suite emis l

theorem Suite.concat {emis : ℕ} {l : List (Demande κ)} (h : Suite emis l) {a : Demande κ}
    (ha : a.numero = emis + 1) : Suite (emis + 1) (l ++ [a]) := by
  induction l with
  | nil => exact ⟨ha, trivial⟩
  | cons b l ih =>
    refine ⟨?_, ih h.2⟩
    have := h.1
    show b.numero + (l ++ [a]).length = emis + 1
    rw [List.length_append, List.length_singleton]
    omega

/-- The first call in flight is the last one issued exactly if it is alone. -/
theorem Suite.numero_eq_iff {emis : ℕ} {a : Demande κ} {l : List (Demande κ)}
    (h : Suite emis (a :: l)) : a.numero = emis ↔ l = [] := by
  have := h.1
  rw [← List.length_eq_zero_iff]
  omega

@[simp] theorem recevoir_page (s : Liste κ β) (r : Retour β) : (s.recevoir r).page = s.page := by
  cases r <;> rfl

@[simp] theorem recevoir_emis (s : Liste κ β) (r : Retour β) : (s.recevoir r).emis = s.emis := by
  cases r <;> rfl

/-- The state after the answer to the first call in flight. -/
theorem retour_cons {s : Liste κ β} {a : Demande κ} {l : List (Demande κ)} (h : s.enVol = a :: l)
    (r : Retour β) : s.retour 0 r = recevoir { s with
      enVol := l
      derniere := if a.numero = s.emis then some (a, r) else s.derniere } r := by
  rw [retour, h]
  rfl

/-! ### The page shown -/

/-- With nothing in flight after a success, the page is one of the pages there are, and nothing is
shown only if no row matches the criteria of the call. -/
structure EnRegle (aucune : κ → Prop) (s : Liste κ β) : Prop where
  page : ∀ a response, s.enVol = [] → s.derniere = some (a, .next response) →
    1 ≤ s.page ∧ s.page ≤ s.totalPages
  vide : ∀ a response, s.enVol = [] → s.derniere = some (a, .next response) → s.lignes = [] →
    aucune a.criteres

/-- In order, and still so when calls in flight have been answered or lost. -/
def ResteEnRegle (avancer : Liste κ β → PasOrdonne κ → Liste κ β) (aucune : κ → Prop)
    (s : Liste κ β) : Prop :=
  ∀ ordres : List (Option Ordre), (run avancer s (ordres.map .reponse)).EnRegle aucune

/-- A `goToPage` that passes its check asks for a page that the search of the text in the fields
has. -/
def PageConnue (n : κ → ℕ) (s : Liste κ β) : PasOrdonne κ → Prop
  | .goToPage p => 1 ≤ p → p ≤ s.totalPages → p ≤ pageCount limite (n s.criteres)
  | _ => True

/-- The invariant. -/
structure Reglee (n : κ → ℕ) (aucune : κ → Prop) (s : Liste κ β) : Prop where
  suite : Suite s.emis s.enVol
  attente : s.enVol ≠ [] → s.derniere = none
  dernier : ∀ a ∈ s.enVol.getLast?, a.page = s.page
  bornes : ∀ a ∈ s.enVol, 1 ≤ a.page ∧ a.page ≤ pageCount limite (n a.criteres)
  admise : ∀ p : ℤ, 1 ≤ p → p ≤ s.totalPages → PageAdmise p
  regle : s.EnRegle aucune

section Steps

variable {n : κ → ℕ} {aucune : κ → Prop} {s : Liste κ β}

theorem Reglee.saisir (h : s.Reglee n aucune) (criteres : κ) :
    ({ s with criteres := criteres } : Liste κ β).Reglee n aucune :=
  ⟨h.suite, h.attente, h.dernier, h.bornes, h.admise, ⟨h.regle.page, h.regle.vide⟩⟩

/-- A call for a page that there is. -/
theorem Reglee.load (h : s.Reglee n aucune) {p : ℤ} (hp : 1 ≤ p)
    (hle : p ≤ pageCount limite (n s.criteres)) :
    (Liste.load { s with page := p }).Reglee n aucune where
  suite := h.suite.concat rfl
  attente _ := rfl
  dernier a ha := by
    have hlast : (Liste.load { s with page := p }).enVol.getLast?
        = some ⟨s.emis + 1, s.criteres, p⟩ := List.getLast?_concat
    rw [hlast] at ha
    obtain rfl := Option.mem_some_iff.mp ha
    rfl
  bornes a ha := by
    rcases List.mem_append.mp ha with ha | ha
    · exact h.bornes a ha
    · obtain rfl := List.mem_singleton.mp ha
      exact ⟨hp, hle⟩
  admise := h.admise
  regle := ⟨nofun, nofun⟩

/-- An error, or the answer of the API to the first call in flight. -/
theorem Reglee.retour {repondre : Ordre → κ → ℤ → Retour β} (hs : Serveur repondre n aucune)
    (h : s.Reglee n aucune) {a : Demande κ} {l : List (Demande κ)} (henVol : s.enVol = a :: l)
    {r : Retour β} (hr : ∀ response, r = .next response →
      ∃ ordre, repondre ordre a.criteres a.page = .next response) :
    (s.retour 0 r).Reglee n aucune := by
  obtain ⟨hsuite, hattente, hdernier, hbornes, hadmise, -⟩ := h
  rw [henVol] at hsuite hdernier hbornes
  have hnone : s.derniere = none := hattente (henVol ▸ List.cons_ne_nil a l)
  have hbounds := hbornes a List.mem_cons_self
  have hadm := hs.admise a.criteres a.page hbounds.1 hbounds.2
  rw [retour_cons henVol, hnone]
  refine ⟨?_, ?_, ?_, ?_, ?_, ?_⟩
  · rw [recevoir_emis, recevoir_enVol]
    exact hsuite.2
  · intro hne
    rw [recevoir_enVol] at hne
    rw [recevoir_derniere]
    exact if_neg fun hnumero => hne (hsuite.numero_eq_iff.mp hnumero)
  · intro b hb
    rw [recevoir_enVol] at hb
    rw [recevoir_page]
    exact hdernier b (List.mem_getLast?_cons hb)
  · intro b hb
    rw [recevoir_enVol] at hb
    exact hbornes b (List.mem_cons_of_mem _ hb)
  · -- only a success changes the number of pages
    cases r with
    | error => exact hadmise
    | next response =>
      obtain ⟨ordre, hordre⟩ := hr response rfl
      intro p hp hle
      refine hs.admise a.criteres p hp ?_
      rw [← hs.total ordre _ _ _ hadm hordre]
      exact hle
  · -- the last call issued is the one that is answered, and what it brings is shown
    have hshown : ∀ b response, (if a.numero = s.emis then some (a, r) else none)
        = some (b, .next response) → a = b ∧ r = .next response := by
      intro b response hder
      split at hder
      · exact Prod.mk.inj (Option.some.inj hder)
      · cases hder
    refine ⟨fun b response hnil hder => ?_, fun b response hnil hder hempty => ?_⟩
    all_goals
      rw [recevoir_enVol] at hnil
      rw [recevoir_derniere] at hder
      obtain ⟨rfl, rfl⟩ := hshown b response hder
      obtain ⟨ordre, hordre⟩ := hr response rfl
    · obtain rfl : l = [] := hnil
      have hpage : a.page = s.page := hdernier a rfl
      show 1 ≤ s.page ∧ s.page ≤ response.totalPages
      rw [← hpage, hs.total ordre _ _ _ hadm hordre]
      exact hbounds
    · exact hs.vide ordre _ _ _ hordre hbounds.1 hbounds.2 hempty

end Steps

/-! ### Runs -/

section Runs

variable {repondre : Ordre → κ → ℤ → Retour β} {n : κ → ℕ} {aucune : κ → Prop}

/-- The answer of the API to the first call in flight. -/
theorem stepOrdonne_reponse {s : Liste κ β} {a : Demande κ} {l : List (Demande κ)}
    (henVol : s.enVol = a :: l) (ordre : Ordre) :
    stepOrdonne step repondre s (.reponse (some ordre))
      = s.retour 0 (repondre ordre a.criteres a.page) := by
  simp only [stepOrdonne, henVol]
  rfl

/-- Answers keep the invariant. -/
theorem Reglee.reponse (hs : Serveur repondre n aucune) {s : Liste κ β} (h : s.Reglee n aucune)
    (ordre : Option Ordre) : (stepOrdonne step repondre s (.reponse ordre)).Reglee n aucune := by
  cases henVol : s.enVol with
  | nil =>
    have hsame : stepOrdonne step repondre s (.reponse ordre) = s := by
      cases ordre with
      | none => exact retour_of_le (by rw [henVol]; exact Nat.le_refl 0) _
      | some ordre => simp only [stepOrdonne, henVol]
    rw [hsame]
    exact h
  | cons a l =>
    cases ordre with
    | none => exact h.retour hs henVol nofun
    | some ordre =>
      rw [stepOrdonne_reponse henVol]
      exact h.retour hs henVol fun response hresponse => ⟨ordre, hresponse⟩

theorem Reglee.goToPage {s : Liste κ β} (h : s.Reglee n aucune) {p : ℤ}
    (hp : 1 ≤ p → p ≤ s.totalPages → p ≤ pageCount limite (n s.criteres)) :
    (s.goToPage p).Reglee n aucune := by
  unfold Liste.goToPage
  split
  · next hcheck => exact h.load hcheck.1 (hp hcheck.1 hcheck.2)
  · exact h

/-- The step rule. -/
theorem Reglee.avancer (hs : Serveur repondre n aucune) {s : Liste κ β} (h : s.Reglee n aucune)
    {pas : PasOrdonne κ} (hpas : s.PageConnue n pas) :
    (stepOrdonne step repondre s pas).Reglee n aucune := by
  cases pas with
  | saisir criteres => exact h.saisir criteres
  | onSearch =>
    have hfirst : 1 ≤ pageCount limite (n s.criteres) := Nat.le_max_left ..
    exact h.load (by decide) (by omega)
  | goToPage p => exact h.goToPage hpas
  | reponse ordre => exact h.reponse hs ordre

variable (repondre) in
/-- What is shown once the API has answered every call in flight: the answer to the last. -/
theorem run_reponses (ordre : Ordre) (a : Demande κ) :
    ∀ (l : List (Demande κ)) (s : Liste κ β), Suite s.emis s.enVol → s.enVol = l ++ [a] →
      let s' := run (stepOrdonne step repondre) s
        (List.replicate (l.length + 1) (.reponse (some ordre)))
      s'.enVol = [] ∧ s'.derniere = some (a, repondre ordre a.criteres a.page) ∧
        s'.page = s.page ∧ ∀ response, repondre ordre a.criteres a.page = .next response →
          s'.totalPages = response.totalPages := by
  intro l
  induction l with
  | nil =>
    intro s hsuite henVol s'
    rw [henVol] at hsuite
    have hnumero : a.numero = s.emis := hsuite.numero_eq_iff.mpr rfl
    have hs' : s' = recevoir { s with
        enVol := []
        derniere := some (a, repondre ordre a.criteres a.page) }
          (repondre ordre a.criteres a.page) := by
      show stepOrdonne step repondre s (.reponse (some ordre)) = _
      rw [stepOrdonne_reponse henVol, retour_cons henVol, if_pos hnumero]
    rw [hs']
    refine ⟨recevoir_enVol .., recevoir_derniere .., recevoir_page .., fun response h => ?_⟩
    rw [h]
    rfl
  | cons b l ih =>
    intro s hsuite henVol
    have hcons : s.enVol = b :: (l ++ [a]) := henVol
    have hstep : stepOrdonne step repondre s (.reponse (some ordre))
        = recevoir _ (repondre ordre b.criteres b.page) :=
      (stepOrdonne_reponse hcons ordre).trans (retour_cons hcons _)
    have hsuite' := (hcons ▸ hsuite).2
    have htail := ih (stepOrdonne step repondre s (.reponse (some ordre)))
      (by rw [hstep, recevoir_emis, recevoir_enVol]; exact hsuite')
      (by rw [hstep, recevoir_enVol])
    have hpage : (stepOrdonne step repondre s (.reponse (some ordre))).page = s.page := by
      rw [hstep, recevoir_page]
    rw [hpage] at htail
    exact htail

theorem Reglee.resteEnRegle (hs : Serveur repondre n aucune) {s : Liste κ β}
    (h : s.Reglee n aucune) : s.ResteEnRegle (stepOrdonne step repondre) aucune := by
  intro ordres
  rw [run, List.foldl_map]
  have hrun := run_preserves (fun s ordre => stepOrdonne step repondre s (.reponse ordre))
    (fun _ ordre h => h.reponse hs ordre) ordres s h
  exact hrun.regle

/-- If a page is asked for that there is not, the API's answer to that call leaves the list beyond
its last page. -/
theorem Reglee.pageConnue_of_resteEnRegle (hs : Serveur repondre n aucune) {s : Liste κ β}
    (h : s.Reglee n aucune) {p : ℤ}
    (hreste : (s.goToPage p).ResteEnRegle (stepOrdonne step repondre) aucune) (hp : 1 ≤ p)
    (hle : p ≤ s.totalPages) : p ≤ pageCount limite (n s.criteres) := by
  rw [Liste.goToPage, if_pos ⟨hp, hle⟩] at hreste
  set s' := Liste.load { s with page := p } with hs'
  have hadm := h.admise p hp hle
  obtain ⟨response, hresponse⟩ := hs.repond .direct s.criteres p hadm
  obtain ⟨hnil, hder, hpage, htotal⟩ := run_reponses repondre .direct
    ⟨s.emis + 1, s.criteres, p⟩ s.enVol s' (h.suite.concat rfl) rfl
  have hregle := hreste (List.replicate (s.enVol.length + 1) (some .direct))
  rw [List.map_replicate] at hregle
  have hrange := (hregle.page _ response hnil (hder.trans (by rw [hresponse]))).2
  rw [hpage, htotal response hresponse, hs.total _ _ _ _ hadm hresponse] at hrange
  exact hrange

/-- The run rule. -/
theorem along_resteEnRegle_iff (hs : Serveur repondre n aucune) {s : Liste κ β}
    (h : s.Reglee n aucune) (pas : List (PasOrdonne κ)) :
    Along (stepOrdonne step repondre) (fun s a =>
        (stepOrdonne step repondre s a).ResteEnRegle (stepOrdonne step repondre) aucune) s pas ↔
      Along (stepOrdonne step repondre) (PageConnue n) s pas := by
  have hiff : ∀ (s : Liste κ β) a, s.Reglee n aucune →
      ((stepOrdonne step repondre s a).ResteEnRegle (stepOrdonne step repondre) aucune ↔
        s.PageConnue n a) := by
    intro s a h
    refine ⟨fun hreste => ?_, fun hconnue => (h.avancer hs hconnue).resteEnRegle hs⟩
    cases a with
    | goToPage p => exact h.pageConnue_of_resteEnRegle hs hreste
    | saisir | onSearch | reponse => trivial
  exact along_iff _ hiff (fun s a h hreste => h.avancer hs ((hiff s a h).mp hreste)) pas s h

/-- The run rule, for the states of the run alone. -/
theorem Reglee.along_enRegle (hs : Serveur repondre n aucune) {s : Liste κ β}
    (h : s.Reglee n aucune) (pas : List (PasOrdonne κ))
    (hpas : Along (stepOrdonne step repondre) (PageConnue n) s pas) :
    Along (stepOrdonne step repondre)
      (fun s a => (stepOrdonne step repondre s a).EnRegle aucune) s pas :=
  Along.of_invariant _ (I := Reglee n aucune) (fun _ _ h hok => h.avancer hs hok)
    (fun _ _ h hok => (h.avancer hs hok).regle) pas s h hpas

/-- The opening of a page. -/
theorem reglee_ngOnInit (hs : Serveur repondre n aucune) (criteres : κ) :
    (Liste.load (constructeur criteres : Liste κ β)).Reglee n aucune := by
  have hblank : (constructeur criteres : Liste κ β).Reglee n aucune := by
    refine ⟨trivial, fun h => absurd rfl h, nofun, nofun, fun p hp hle => ?_, ⟨nofun, nofun⟩⟩
    have hfirst : 1 ≤ pageCount limite (n criteres) := Nat.le_max_left ..
    have hone : p ≤ 1 := hle
    exact hs.admise criteres p hp (by omega)
  have hfirst : 1 ≤ pageCount limite (n criteres) := Nat.le_max_left ..
  exact hblank.load (p := 1) (by decide) (by exact_mod_cast hfirst)

end Runs

end Liste

/-- Where every `goToPage` of a run that passes its check asks for a page that the search of the
text in the fields has, every state of the run shows one of the pages there are, and nothing only if
no row matches, whenever nothing is in flight after a success. -/
theorem page_in_range (strtod : String → ℤ) (like : String → String → Bool) (c : Catalogue) :
    (∀ pas, Along (LivresList.avancer like c) (Liste.PageConnue (LivresList.trouves like c))
        (LivresList.ngOnInit LivresList.constructeur) pas →
      Along (LivresList.avancer like c)
        (fun s a => (LivresList.avancer like c s a).EnRegle (LivresList.Aucun like c))
        (LivresList.ngOnInit LivresList.constructeur) pas) ∧
    (∀ pas, Along (AuteursList.avancer strtod like c)
        (Liste.PageConnue (AuteursList.trouves like c))
        (AuteursList.ngOnInit AuteursList.constructeur) pas →
      Along (AuteursList.avancer strtod like c)
        (fun s a => (AuteursList.avancer strtod like c s a).EnRegle (AuteursList.Aucun like c))
        (AuteursList.ngOnInit AuteursList.constructeur) pas) := by
  rw [LivresList.avancer, AuteursList.avancer, LivresList.step_eq, AuteursList.step_eq]
  have hlivres := serveur_livres like c
  have hauteurs := serveur_auteurs strtod like c
  constructor
  · exact (Liste.reglee_ngOnInit hlivres _).along_enRegle hlivres
  · exact (Liste.reglee_ngOnInit hauteurs _).along_enRegle hauteurs

/-- **The page number stays in range.**  For every catalogue and every run of either list from the
opening of its page, with answers in the order of the requests: every state of the run, and every
state it comes to when requests in flight are answered, shows one of the pages there are and nothing
only if no row matches, if and only if every `goToPage` of the run that passes its check asks for a
page that the search of the text in the fields has. -/
theorem page_in_range_iff (strtod : String → ℤ) (like : String → String → Bool) (c : Catalogue) :
    (∀ pas, Along (LivresList.avancer like c)
        (fun s a => (LivresList.avancer like c s a).ResteEnRegle (LivresList.avancer like c)
          (LivresList.Aucun like c))
        (LivresList.ngOnInit LivresList.constructeur) pas ↔
      Along (LivresList.avancer like c) (Liste.PageConnue (LivresList.trouves like c))
        (LivresList.ngOnInit LivresList.constructeur) pas) ∧
    (∀ pas, Along (AuteursList.avancer strtod like c)
        (fun s a => (AuteursList.avancer strtod like c s a).ResteEnRegle
          (AuteursList.avancer strtod like c) (AuteursList.Aucun like c))
        (AuteursList.ngOnInit AuteursList.constructeur) pas ↔
      Along (AuteursList.avancer strtod like c) (Liste.PageConnue (AuteursList.trouves like c))
        (AuteursList.ngOnInit AuteursList.constructeur) pas) := by
  rw [LivresList.avancer, AuteursList.avancer, LivresList.step_eq, AuteursList.step_eq]
  have hlivres := serveur_livres like c
  have hauteurs := serveur_auteurs strtod like c
  constructor
  · exact Liste.along_resteEnRegle_iff hlivres (Liste.reglee_ngOnInit hlivres _)
  · exact Liste.along_resteEnRegle_iff hauteurs (Liste.reglee_ngOnInit hauteurs _)

/-- Ten books fill two pages.  An author is typed without `onSearch`, and page 2 is asked for: the
answer is empty although a book of that author is in the catalogue, and page 2 of 1 is shown. -/
theorem page_beyond_last :
    let k : LivresList.Criteres := ⟨"", "roche", ""⟩
    let s := run (LivresList.avancer Exemple.like Exemple.catalogue)
      (LivresList.ngOnInit LivresList.constructeur)
      [.reponse (some .direct), .saisir k, .goToPage 2, .reponse (some .direct)]
    s.enVol = [] ∧ s.derniere = some (⟨2, k, 2⟩, .next ⟨[], 1, 2⟩) ∧ s.page = 2 ∧
      s.totalPages = 1 ∧ s.lignes = [] ∧ LivresList.trouves Exemple.like Exemple.catalogue k = 1 ∧
      ¬ s.EnRegle (LivresList.Aucun Exemple.like Exemple.catalogue) := by
  intro k s
  have hnil : s.enVol = [] := by decide
  have hder : s.derniere = some (⟨2, k, 2⟩, .next ⟨[], 1, 2⟩) := by decide
  have hpage : s.page = 2 := by decide
  have htotal : s.totalPages = 1 := by decide
  refine ⟨hnil, hder, hpage, htotal, by decide, by decide, fun h => ?_⟩
  have hle := (h.page _ _ hnil hder).2
  rw [hpage, htotal] at hle
  exact absurd hle (by decide)

end Biblio
