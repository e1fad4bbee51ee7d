import Biblio.Store.Interleave
import Mathlib.Data.Finset.Card
import Mathlib.Data.Finset.Option

/-!
# Check, then act

A handler that counts rows, compares the number with a limit and then writes one more does not
keep the limit when requests interleave: others may write between its test and its unit of work.
What is kept is the limit plus the number of requests that are under way at once.

The rows that count are given by their keys, `cells s`.  A handler is `Guarded` while it can only
make units of work that add no cell, unless it first reads contents that pass the test; a request
that is not guarded any more is armed.  A request may have a `target`, the row it is going to
rewrite, which its test then leaves out.

The invariant is the sum of the cells that are nobody's target and of the armed requests
(`Config.load`).  A request that passes its test is armed with at most `limit` such cells; a unit
of work adds a cell and disarms its request (`load_commit_le`).  So in every interleaving with at
most `k` requests under way there are at most `limit + k` cells (`Config.card_cells_le`).
-/

namespace Biblio

instance Along.decidable {σ α : Type} {step : σ → α → σ} {ok : σ → α → Prop}
    [hok : ∀ s a, Decidable (ok s a)] : ∀ (s : σ) (as : List α), Decidable (Along step ok s as)
  | _, [] => isTrue trivial
  | s, a :: as => @instDecidableAnd _ _ (hok s a) (Along.decidable (step s a) as)

/-- Along a run, every input is one of the run. -/
theorem Along.and_mem {σ α : Type} {step : σ → α → σ} {ok : σ → α → Prop} (all : List α) :
    ∀ {as : List α} {s : σ}, Along step ok s as → (∀ a ∈ as, a ∈ all) →
      Along step (fun s a => ok s a ∧ a ∈ all) s as
  | [], _, _, _ => trivial
  | a :: _, _, h, hall =>
    ⟨⟨h.1, hall a (List.mem_cons_self ..)⟩,
      h.2.and_mem all fun b hb => hall b (List.mem_cons_of_mem _ hb)⟩

namespace Prog

variable {σ τ ρ β : Type}

/-- The handler has answered. -/
def isDone : Prog σ τ ρ → Bool
  | done _ => true
  | _ => false

/-- A handler that makes only units of work `ws` with `Q ws`, unless it first queries contents
that meet `C`. -/
inductive Guarded (C : σ → Prop) (Q : List τ → Prop) : Prog σ τ ρ → Prop
  | done (r : ρ) : Guarded C Q (done r)
  | query {k : σ → Prog σ τ ρ} (h : ∀ s, ¬ C s → Guarded C Q (k s)) : Guarded C Q (query k)
  | flush {ws : List τ} {k : Bool → Prog σ τ ρ} (h : Q ws) (hk : ∀ b, Guarded C Q (k b)) :
      Guarded C Q (flush ws k)

variable {C : σ → Prop} {Q : List τ → Prop}

/-- A handler all of whose units of work are `Q` is guarded, whatever the test. -/
theorem EndsBy.guarded {A : ρ → Prop} {P : List τ → (Bool → ρ) → Prop} {p : Prog σ τ ρ}
    (hp : EndsBy A P p) (h : ∀ ws f, P ws f → Q ws) : Guarded C Q p := by
  induction hp with
  | done _ => exact .done _
  | query _ ih => exact .query fun s _ => ih s
  | flush hP => exact .flush (h _ _ hP) fun b => .done _

theorem EndsBy.mono {A : ρ → Prop} {P P' : List τ → (Bool → ρ) → Prop} {p : Prog σ τ ρ}
    (hp : EndsBy A P p) (h : ∀ ws f, P ws f → P' ws f) : EndsBy A P' p := by
  induction hp with
  | done hr => exact .done hr
  | query _ ih => exact .query ih
  | flush hP => exact .flush (h _ _ hP)

/-- A part that only reads, before a guarded rest. -/
theorem ReadOnly.guarded_bind {p : Prog σ τ ρ} (hp : ReadOnly p) {f : ρ → Prog σ τ β}
    (hf : ∀ r, Guarded C Q (f r)) : Guarded C Q (p >>= f) := by
  induction hp with
  | done => exact hf _
  | query _ ih => exact .query fun s _ => ih s
  | flush h => exact h.elim

end Prog

namespace Config

open Prog

variable {σ τ ρ α : Type}

/-- The number of requests that have not answered. -/
def underWay (c : Config σ τ ρ α) : ℕ :=
  c.procs.countP fun ap => !ap.2.isDone

/-- Replacing the `i`-th entry of a list. -/
private theorem exists_append_of_getElem? {β : Type} {x : β} : ∀ {l : List β} {i : ℕ},
    l[i]? = some x → ∃ l₁ l₂, l = l₁ ++ x :: l₂ ∧ ∀ y, l.set i y = l₁ ++ y :: l₂
  | [], i, h => by simp at h
  | a :: l, 0, h => by
    obtain rfl : a = x := by simpa using h
    exact ⟨[], l, rfl, fun y => rfl⟩
  | a :: l, i + 1, h => by
    obtain ⟨l₁, l₂, hl, hset⟩ := exists_append_of_getElem? (l := l) (i := i) (by simpa using h)
    refine ⟨a :: l₁, l₂, by rw [hl, List.cons_append], fun y => ?_⟩
    rw [List.set_cons_succ, hset y, List.cons_append]

variable (cells : σ → Finset ℕ) (target : α → Option ℕ) (limit : ℕ)

/-- The test a request makes: the cells but its target are within the limit. -/
def Passes (a : α) (s : σ) : Prop := (cells s \ (target a).toFinset).card ≤ limit

/-- The targets of some requests. -/
def targets (as : List α) : Finset ℕ := (as.filterMap target).toFinset

/-- The cells that are not the target of one of these requests, and the requests. -/
def load (s : σ) (as : List α) : ℕ := (cells s \ targets target as).card + as.length

variable {cells target limit}

theorem mem_targets {as : List α} {i : ℕ} :
    i ∈ targets target as ↔ ∃ a ∈ as, target a = some i := by
  rw [targets, List.mem_toFinset, List.mem_filterMap]

/-- The cells are at most the load. -/
theorem card_cells_le_load (s : σ) (as : List α) :
    (cells s).card ≤ load cells target s as := by
  have htargets : (targets target as).card ≤ as.length :=
    (List.toFinset_card_le _).trans (List.length_filterMap_le _ _)
  have hsplit := Finset.le_card_sdiff (targets target as) (cells s)
  unfold load
  omega

/-- A unit of work that adds at most one cell, the target of its request if it has one, is paid
for by the request. -/
theorem load_commit_le {s s' : σ} {l₁ l₂ : List α} {a : α} {x : ℕ}
    (hsub : cells s' ⊆ insert x (cells s)) (hx : ∀ i, target a = some i → x = i) :
    load cells target s' (l₁ ++ l₂) ≤ load cells target s (l₁ ++ a :: l₂) := by
  have hcells : cells s' \ targets target (l₁ ++ l₂)
      ⊆ insert x (cells s \ targets target (l₁ ++ a :: l₂)) := by
    intro y hy
    obtain ⟨hy, hout⟩ := Finset.mem_sdiff.mp hy
    rcases Finset.mem_insert.mp (hsub hy) with rfl | hcell
    · exact Finset.mem_insert_self ..
    by_cases hin : y ∈ targets target (l₁ ++ a :: l₂)
    · -- a target that is no longer one is that of the request itself
      obtain ⟨b, hb, hi⟩ := mem_targets.mp hin
      rcases List.mem_append.mp hb with h | h
      · exact absurd (mem_targets.mpr ⟨b, List.mem_append_left _ h, hi⟩) hout
      rcases List.mem_cons.mp h with rfl | h
      · rw [hx y hi]
        exact Finset.mem_insert_self ..
      · exact absurd (mem_targets.mpr ⟨b, List.mem_append_right _ h, hi⟩) hout
    · exact Finset.mem_insert_of_mem (Finset.mem_sdiff.mpr ⟨hcell, hin⟩)
  have hcard := (Finset.card_le_card hcells).trans (Finset.card_insert_le _ _)
  simp only [load, List.length_append, List.length_cons]
  omega

/-- A request that is dropped lowers the load. -/
theorem load_drop_le (s : σ) (l₁ l₂ : List α) (a : α) :
    load cells target s (l₁ ++ l₂) ≤ load cells target s (l₁ ++ a :: l₂) := by
  refine load_commit_le (x := (target a).getD 0) (Finset.subset_insert _ _) fun i hi => ?_
  rw [hi]
  rfl

theorem load_mono {s s' : σ} (h : cells s' ⊆ cells s) (as : List α) :
    load cells target s' as ≤ load cells target s as :=
  Nat.add_le_add_right (Finset.card_le_card (Finset.sdiff_subset_sdiff h (Finset.Subset.refl _))) _

/-- A request that has just passed its test. -/
theorem load_le_of_passes {s : σ} {as : List α} {a : α} {k : ℕ} (hmem : a ∈ as)
    (hpass : Passes cells target limit a s) (hk : as.length ≤ k) :
    load cells target s as ≤ limit + k := by
  have hsub : cells s \ targets target as ⊆ cells s \ (target a).toFinset := by
    refine Finset.sdiff_subset_sdiff (Finset.Subset.refl _) fun i hi => ?_
    exact mem_targets.mpr ⟨a, hmem, Option.mem_toFinset.mp hi⟩
  exact Nat.add_le_add ((Finset.card_le_card hsub).trans hpass) hk

variable [Database σ τ]

section Armed

variable (cells target limit)

/-- A unit of work that adds no cell. -/
def Harmless (ws : List τ) : Prop := ∀ s s', commit ws s = some s' → cells s' ⊆ cells s

/-- A unit of work that adds at most one cell, the target `o` if there is one. -/
def AddsOne (o : Option ℕ) (ws : List τ) : Prop :=
  ∀ s s', commit ws s = some s' → ∃ x, cells s' ⊆ insert x (cells s) ∧ ∀ i, o = some i → x = i

/-- A handler that adds a cell only after its test. -/
def Tests (a : α) (p : Prog σ τ ρ) : Prop :=
  p.Guarded (Passes cells target limit a) (Harmless cells)

open Classical in
/-- The requests that have passed their test and not made their unit of work. -/
noncomputable def armed (procs : List (α × Prog σ τ ρ)) : List α :=
  (procs.filter fun ap => ¬ Tests cells target limit ap.1 ap.2).map Prod.fst

/-- The load is within the limit, and every request ends by a unit of work that adds at most one
cell. -/
structure Bounded (k : ℕ) (c : Config σ τ ρ α) : Prop where
  load_le : load cells target c.store (armed cells target limit c.procs) ≤ limit + k
  ends : ∀ ap ∈ c.procs,
    ap.2.EndsBy (fun _ => True) fun ws _ => AddsOne cells (target ap.1) ws

end Armed

/-- A unit of work that adds no cell adds at most one. -/
theorem Harmless.addsOne {ws : List τ} (h : Harmless cells ws) (o : Option ℕ) :
    AddsOne cells o ws := by
  intro s s' hc
  refine ⟨o.getD 0, (h s s' hc).trans (Finset.subset_insert _ _), fun i hi => ?_⟩
  rw [hi]
  rfl

theorem tests_done (a : α) (r : ρ) : Tests cells target limit a (.done r : Prog σ τ ρ) :=
  Guarded.done r

theorem length_armed_le (c : Config σ τ ρ α) :
    (armed cells target limit c.procs).length ≤ c.underWay := by
  unfold armed underWay
  rw [List.length_map, ← List.countP_eq_length_filter]
  refine List.countP_mono_left fun ap _ h => ?_
  obtain ⟨a, p⟩ := ap
  cases p with
  | done r => exact absurd (tests_done a r) (by simpa using h)
  | query q => rfl
  | flush ws q => rfl

theorem armed_append (l₁ l₂ : List (α × Prog σ τ ρ)) :
    armed cells target limit (l₁ ++ l₂)
      = armed cells target limit l₁ ++ armed cells target limit l₂ := by
  unfold armed
  rw [List.filter_append, List.map_append]

variable {s s' : σ} {l₁ l₂ l : List (α × Prog σ τ ρ)} {a : α} {p p' : Prog σ τ ρ} {k : ℕ}

theorem armed_cons_of_not (h : ¬ Tests cells target limit a p) :
    armed cells target limit ((a, p) :: l) = a :: armed cells target limit l := by
  simp [armed, h]

theorem armed_cons_of_tests (h : Tests cells target limit a p) :
    armed cells target limit ((a, p) :: l) = armed cells target limit l := by
  simp [armed, h]

/-- An access that leaves the contents as they are. -/
theorem load_silent (hk : (armed cells target limit (l₁ ++ (a, p') :: l₂)).length ≤ k)
    (hload : load cells target s (armed cells target limit (l₁ ++ (a, p) :: l₂)) ≤ limit + k)
    (htest : Tests cells target limit a p → Passes cells target limit a s ∨
      Tests cells target limit a p') :
    load cells target s (armed cells target limit (l₁ ++ (a, p') :: l₂)) ≤ limit + k := by
  rw [armed_append] at *
  by_cases hp : Tests cells target limit a p
  · rw [armed_cons_of_tests hp] at hload
    by_cases hp' : Tests cells target limit a p'
    · rw [armed_cons_of_tests hp']
      exact hload
    · -- the request has just been armed, so it has passed its test
      rw [armed_cons_of_not hp'] at hk ⊢
      exact load_le_of_passes (List.mem_append_right _ (List.mem_cons_self ..))
        ((htest hp).resolve_right hp') hk
  · rw [armed_cons_of_not hp] at hload
    by_cases hp' : Tests cells target limit a p'
    · rw [armed_cons_of_tests hp']
      exact (load_drop_le s _ _ _).trans hload
    · rw [armed_cons_of_not hp']
      exact hload

/-- A unit of work that is committed, and is the last access of its request. -/
theorem load_commit {ws : List τ} {q : Bool → Prog σ τ ρ} (hc : commit ws s = some s') (r : ρ)
    (hadds : AddsOne cells (target a) ws)
    (hload : load cells target s (armed cells target limit (l₁ ++ (a, .flush ws q) :: l₂))
      ≤ limit + k) :
    load cells target s' (armed cells target limit (l₁ ++ (a, .done r) :: l₂)) ≤ limit + k := by
  rw [armed_append, armed_cons_of_tests (tests_done a r)]
  rw [armed_append] at hload
  by_cases hp : Tests cells target limit a (.flush ws q)
  · rw [armed_cons_of_tests hp] at hload
    cases hp with
    | flush hQ _ => exact (load_mono (hQ s s' hc) _).trans hload
  · rw [armed_cons_of_not hp] at hload
    obtain ⟨x, hsub, hx⟩ := hadds s s' hc
    exact (load_commit_le hsub hx).trans hload

/-- What is left of a handler after an access ends as the handler does. -/
theorem endsBy_step {P : List τ → (Bool → ρ) → Prop} (hp : p.EndsBy (fun _ => True) P) (s : σ) :
    (p.step s).2.EndsBy (fun _ => True) P := by
  cases hp with
  | done hr => exact .done hr
  | query hq => exact hq _
  | @flush ws f _ =>
    cases hc : commit ws s with
    | none =>
      rw [Prog.step_flush_none hc]
      exact .done trivial
    | some s' =>
      rw [Prog.step_flush_some hc]
      exact .done trivial

variable {handler : α → Prog σ τ ρ}

/-- One event keeps the load within the limit, if at most `k` requests are then under way. -/
theorem Bounded.step {c : Config σ τ ρ α} (h : Bounded cells target limit k c) (e : Event α)
    (htests : ∀ a, e = .arrive a → Tests cells target limit a (handler a))
    (hends : ∀ a, e = .arrive a →
      (handler a).EndsBy (fun _ => True) fun ws _ => AddsOne cells (target a) ws)
    (hk : (c.step handler e).underWay ≤ k) :
    Bounded cells target limit k (c.step handler e) := by
  have hlen : (armed cells target limit (c.step handler e).procs).length ≤ k :=
    (length_armed_le _).trans hk
  cases e with
  | arrive a =>
    refine ⟨?_, fun ap hap => ?_⟩
    · show load cells target c.store (armed cells target limit (c.procs ++ [(a, handler a)])) ≤ _
      rw [armed_append, armed_cons_of_tests (htests a rfl)]
      simpa [armed] using h.load_le
    · rcases List.mem_append.mp hap with hap | hap
      · exact h.ends ap hap
      · rw [List.mem_singleton.mp hap]
        exact hends a rfl
  | advance i =>
    cases hi : c.procs[i]? with
    | none =>
      have hsame : c.step handler (.advance i) = c := by simp only [Config.step, hi]
      rw [hsame]
      exact h
    | some ap =>
      obtain ⟨a, p⟩ := ap
      obtain ⟨l₁, l₂, hl, hset⟩ := exists_append_of_getElem? hi
      have hstep : c.step handler (.advance i)
          = ⟨(p.step c.store).1, l₁ ++ (a, (p.step c.store).2) :: l₂⟩ := by
        simp only [Config.step, hi, hset]
      have hload := h.load_le
      have hmem : (a, p) ∈ c.procs := List.mem_of_getElem? hi
      have hend : p.EndsBy (fun _ => True) fun ws _ => AddsOne cells (target a) ws :=
        h.ends _ hmem
      rw [hstep] at hlen ⊢
      rw [hl] at hload
      refine ⟨?_, fun bq hbq => ?_⟩
      · show load cells target (p.step c.store).1 _ ≤ _
        cases hend with
        | done _ => exact hload
        | @query q _ =>
          refine load_silent hlen hload fun hp => ?_
          by_cases hpass : Passes cells target limit a c.store
          · exact Or.inl hpass
          · cases hp with
            | query hq => exact Or.inr (hq _ hpass)
        | @flush ws f hadds =>
          cases hc : commit ws c.store with
          | none =>
            rw [Prog.step_flush_none hc] at hlen ⊢
            exact load_silent hlen hload fun _ => Or.inr (tests_done a _)
          | some s' =>
            rw [Prog.step_flush_some hc]
            exact load_commit hc _ hadds hload
      · rcases List.mem_append.mp hbq with hb | hb
        · exact h.ends bq (by rw [hl]; exact List.mem_append_left _ hb)
        rcases List.mem_cons.mp hb with rfl | hb
        · exact endsBy_step hend _
        · exact h.ends bq (by rw [hl]; exact List.mem_append_right _ (List.mem_cons_of_mem _ hb))

/-- **Check, then act.**  In an interleaving of requests that add cells only after their test, with
at most `k` of them under way at once, there are at most `limit + k` cells. -/
theorem card_cells_le {s : σ} (hs : (cells s).card ≤ limit + k) (es : List (Event α))
    (htests : ∀ a, .arrive a ∈ es → Tests cells target limit a (handler a))
    (hends : ∀ a, .arrive a ∈ es →
      (handler a).EndsBy (fun _ => True) fun ws _ => AddsOne cells (target a) ws)
    (hk : Along (Config.step handler) (fun c e => (c.step handler e).underWay ≤ k) (idle s) es) :
    (cells (run (Config.step handler) (idle s) es).store).card ≤ limit + k := by
  have hidle : Bounded cells target limit k (idle s : Config σ τ ρ α) := by
    refine ⟨?_, fun ap hap => ?_⟩
    · show load cells target s [] ≤ _
      simpa [load, targets] using hs
    · cases hap
  have hrun := run_invariant (Config.step handler) (I := Bounded cells target limit k)
    (fun c e hc he => hc.step e (fun a ha => htests a (ha ▸ he.2)) (fun a ha => hends a (ha ▸ he.2))
      he.1) es _ hidle (hk.and_mem es fun e he => he)
  exact (card_cells_le_load _ _).trans hrun.load_le

end Config

end Biblio
