import Biblio.Listes
import Biblio.Store.Run

/-!
# Answers and the lists of the client

A list is told nothing about the call an answer belongs to.  The list shows the answer to the last
call, and the spinner turns as long as a call is in flight, exactly in the runs in which every
answer arrives when its call is the only one in flight (`lists_show_last_request_iff`).

The invariant, `Liste.Ordonnee`: the last call in flight is the last one issued, and while there is
one, no answer to it is known.
-/

namespace Biblio

namespace Liste

variable {κ β : Type}

/-- With nothing in flight and the last call answered, the list shows that answer; the spinner stops
only when nothing is in flight. -/
structure Fidele (s : Liste κ β) : Prop where
  montre : ∀ a response, s.enVol = [] → s.derniere = some (a, .next response) →
    s.lignes = response.data ∧ s.totalPages = response.totalPages
  charge : s.isLoading = false → s.enVol = []

/-- If a step brings the answer to a call, that call is the only one in flight. -/
def ReponseSeule (s : Liste κ β) : PasListe κ β → Prop
  | .retour i _ => i < s.enVol.length → s.enVol.length = 1
  | _ => True

/-- The invariant. -/
structure Ordonnee (s : Liste κ β) : Prop where
  fidele : s.Fidele
  dernier : ∀ a ∈ s.enVol.getLast?, a.numero = s.emis
  attente : s.enVol ≠ [] → s.derniere = none

/-! ### The steps -/

theorem ordonnee_load (s : Liste κ β) : s.load.Ordonnee where
  fidele := ⟨nofun, nofun⟩
  dernier a ha := by
    have hlast : s.load.enVol.getLast? = some ⟨s.emis + 1, s.criteres, s.page⟩ :=
      List.getLast?_concat
    rw [hlast] at ha
    obtain rfl := Option.mem_some_iff.mp ha
    rfl
  attente _ := rfl

/-- Typing changes nothing that is shown. -/
theorem Ordonnee.saisir {s : Liste κ β} (h : s.Ordonnee) (criteres : κ) :
    ({ s with criteres := criteres } : Liste κ β).Ordonnee :=
  ⟨⟨h.fidele.montre, h.fidele.charge⟩, h.dernier, h.attente⟩

theorem Ordonnee.goToPage {s : Liste κ β} (h : s.Ordonnee) (p : ℤ) : (s.goToPage p).Ordonnee := by
  unfold Liste.goToPage
  split
  · exact ordonnee_load _
  · exact h

theorem retour_of_le {s : Liste κ β} {i : ℕ} (h : s.enVol.length ≤ i) (r : Retour β) :
    s.retour i r = s := by
  rw [retour, List.getElem?_eq_none h]

theorem retour_of_lt {s : Liste κ β} {i : ℕ} (h : i < s.enVol.length) (r : Retour β) :
    s.retour i r = recevoir { s with
      enVol := s.enVol.eraseIdx i
      derniere := if s.enVol[i].numero = s.emis then some (s.enVol[i], r) else s.derniere } r := by
  rw [retour, List.getElem?_eq_getElem h]

@[simp] theorem recevoir_enVol (s : Liste κ β) (r : Retour β) : (s.recevoir r).enVol = s.enVol := by
  cases r <;> rfl

@[simp] theorem recevoir_derniere (s : Liste κ β) (r : Retour β) :
    (s.recevoir r).derniere = s.derniere := by
  cases r <;> rfl

@[simp] theorem recevoir_isLoading (s : Liste κ β) (r : Retour β) :
    (s.recevoir r).isLoading = false := by
  cases r <;> rfl

/-- After an answer the spinner has stopped: nothing else may be in flight. -/
theorem Fidele.length_eq_one {s : Liste κ β} {i : ℕ} {r : Retour β} (h : (s.retour i r).Fidele)
    (hi : i < s.enVol.length) : s.enVol.length = 1 := by
  rw [retour_of_lt hi] at h
  have hnil := h.charge (recevoir_isLoading ..)
  rw [recevoir_enVol] at hnil
  have hlength := congrArg List.length hnil
  rw [List.length_eraseIdx_of_lt hi, List.length_nil] at hlength
  omega

/-- The answer to the only call in flight is that to the last call issued. -/
theorem Ordonnee.retour {s : Liste κ β} (h : s.Ordonnee) {i : ℕ} {r : Retour β}
    (hseule : i < s.enVol.length → s.enVol.length = 1) : (s.retour i r).Ordonnee := by
  rcases Nat.lt_or_ge i s.enVol.length with hi | hi
  · obtain ⟨a, ha⟩ := List.length_eq_one_iff.mp (hseule hi)
    obtain rfl : i = 0 := by
      have := hseule hi
      omega
    have hnumero : a.numero = s.emis := h.dernier a (by rw [ha]; rfl)
    have hretour : s.retour 0 r
        = recevoir { s with enVol := [], derniere := some (a, r) } r := by
      rw [retour_of_lt hi]
      simp only [ha, List.getElem_cons_zero, if_pos hnumero, List.eraseIdx_cons_zero]
    rw [hretour]
    refine ⟨⟨?_, ?_⟩, ?_, ?_⟩
    · intro a' response _ hder
      rw [recevoir_derniere] at hder
      obtain rfl : r = .next response := (Prod.mk.inj (Option.some.inj hder)).2
      exact ⟨rfl, rfl⟩
    · exact fun _ => recevoir_enVol ..
    · intro a' ha'
      rw [recevoir_enVol] at ha'
      cases ha'
    · exact fun hne => absurd (recevoir_enVol ..) hne
  · rw [retour_of_le hi]
    exact h

/-! ### Runs -/

/-- The step rule: a step of an ordered list shows what it should exactly if it brings no answer
besides another call in flight. -/
theorem Ordonnee.fidele_step_iff {s : Liste κ β} (h : s.Ordonnee) (pas : PasListe κ β) :
    (s.step pas).Fidele ↔ s.ReponseSeule pas := by
  cases pas with
  | saisir criteres => exact iff_of_true (h.saisir criteres).fidele trivial
  | onSearch => exact iff_of_true (ordonnee_load _).fidele trivial
  | goToPage p => exact iff_of_true (h.goToPage p).fidele trivial
  | retour i r => exact ⟨fun hf => hf.length_eq_one, fun hseule => (h.retour hseule).fidele⟩

theorem Ordonnee.step {s : Liste κ β} (h : s.Ordonnee) (pas : PasListe κ β)
    (hf : (s.step pas).Fidele) : (s.step pas).Ordonnee := by
  cases pas with
  | saisir criteres => exact h.saisir criteres
  | onSearch => exact ordonnee_load _
  | goToPage p => exact h.goToPage p
  | retour i r => exact h.retour fun hi => hf.length_eq_one hi

/-- The run rule. -/
theorem along_fidele_iff {s : Liste κ β} (h : s.Ordonnee) (pas : List (PasListe κ β)) :
    Along step (fun s a => (s.step a).Fidele) s pas ↔ Along step ReponseSeule s pas :=
  along_iff step (fun _ a h => h.fidele_step_iff a) (fun _ a h hf => h.step a hf) pas s h

end Liste

/-- **Lists and the last request.**  For every run of either list from the opening of its page:
every state of the run shows the answer to the last request as soon as nothing is in flight, and
turns the spinner until then, if and only if every answer of the run arrives when its request is the
only one in flight. -/
theorem lists_show_last_request_iff (livres : List (PasListe LivresList.Criteres LivreLu))
    (auteurs : List (PasListe AuteursList.Criteres AuteurRow)) :
    (Along LivresList.step (fun s a => (LivresList.step s a).Fidele)
        (LivresList.ngOnInit LivresList.constructeur) livres ↔
      Along LivresList.step Liste.ReponseSeule (LivresList.ngOnInit LivresList.constructeur)
        livres) ∧
    (Along AuteursList.step (fun s a => (AuteursList.step s a).Fidele)
        (AuteursList.ngOnInit AuteursList.constructeur) auteurs ↔
      Along AuteursList.step Liste.ReponseSeule (AuteursList.ngOnInit AuteursList.constructeur)
        auteurs) := by
  rw [LivresList.step_eq, AuteursList.step_eq]
  constructor
  · exact Liste.along_fidele_iff (Liste.ordonnee_load _) livres
  · exact Liste.along_fidele_iff (Liste.ordonnee_load _) auteurs

/-- The first page and a search are in flight together.  The answer to the search stops the spinner
although the first page has not come, and the first page then replaces what was searched for. -/
theorem list_shows_older_request :
    let page : Resultat LivreLu :=
      ⟨[⟨⟨1, "Natus mollitia ut", none, "Espagnol", none⟩, [], []⟩], 2, 1⟩
    let trouve : Resultat LivreLu := ⟨[], 1, 1⟩
    let s₂ := run LivresList.step (LivresList.ngOnInit LivresList.constructeur)
      [.saisir ⟨"zzz", "", ""⟩, .onSearch, .retour 1 (.next trouve)]
    let s₃ := LivresList.step s₂ (.retour 0 (.next page))
    s₂.isLoading = false ∧ s₂.enVol ≠ [] ∧ ¬ s₂.Fidele ∧
      s₃.enVol = [] ∧ s₃.derniere = some (⟨2, ⟨"zzz", "", ""⟩, 1⟩, .next trouve) ∧
      s₃.lignes = page.data ∧ ¬ s₃.Fidele := by
  intro page trouve s₂ s₃
  have hder : s₃.derniere = some (⟨2, ⟨"zzz", "", ""⟩, 1⟩, .next trouve) := by decide
  refine ⟨by decide, by decide, fun h => ?_, by decide, hder, by decide, fun h => ?_⟩
  · exact absurd (h.charge (by decide)) (by decide)
  · exact absurd (h.montre _ _ (by decide) hder).1 (by decide)

end Biblio
