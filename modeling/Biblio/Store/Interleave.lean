import Biblio.Store.Prog
import Biblio.Store.Run
import Mathlib.Data.List.Perm.Basic

/-!
# Interleaved requests

A `Config` is a database with the requests that have arrived, each at some point of its handler.
An `Event` is the arrival of a request or one access of one of them, so a list of events is an
interleaving of any finite set of requests; a request's accesses are otherwise unrestricted.

* `Staged.step`: an invariant that says of every request where it stands.
* `serialFrom_of_atomic`: if every access that is not the last of its request leaves the
  database unchanged, and every last access does what the whole request would do on its own at
  that moment, then the interleaving has the effect and the answers of serving the requests one
  after another, in the order of their last accesses.
-/

namespace Biblio

/-- The arrival of a request, or one access to the database by the `i`-th one. -/
inductive Event (α : Type) where
  | arrive (a : α)
  | advance (i : ℕ)

/-- The committed contents, and the requests with what is left of their handlers. -/
structure Config (σ τ ρ α : Type) where
  store : σ
  procs : List (α × Prog σ τ ρ)

namespace Config

variable {σ τ ρ α : Type} [Database σ τ] (handler : α → Prog σ τ ρ)

/-- A database with no request under way. -/
def idle (s : σ) : Config σ τ ρ α := ⟨s, []⟩

/-- One event.  Advancing a request that has answered, or does not exist, does nothing. -/
def step (c : Config σ τ ρ α) : Event α → Config σ τ ρ α
  | .arrive a => ⟨c.store, c.procs ++ [(a, handler a)]⟩
  | .advance i =>
    match c.procs[i]? with
    | some (a, p) => ⟨(p.step c.store).1, c.procs.set i (a, (p.step c.store).2)⟩
    | none => c

/-! ### Where each request stands -/

/-- Every request under way is at a point described by `Stage`. -/
def Staged (Stage : σ → α → Prog σ τ ρ → Prop) (c : Config σ τ ρ α) : Prop :=
  ∀ ap ∈ c.procs, Stage c.store ap.1 ap.2

omit [Database σ τ] in
theorem staged_idle (Stage : σ → α → Prog σ τ ρ → Prop) (s : σ) : Staged Stage (idle s) := by
  intro ap hap
  cases hap

/-- **Stage rule.**  A request starts at a stage, an access takes its own request to a stage, and
the stages of the others survive what an access may do to the contents. -/
theorem Staged.step {Stage : σ → α → Prog σ τ ρ → Prop} {Evolves : σ → σ → Prop}
    (hstart : ∀ s a, Stage s a (handler a))
    (hothers : ∀ s s' a p, Evolves s s' → Stage s a p → Stage s' a p)
    {c : Config σ τ ρ α} (hc : Staged Stage c) (e : Event α)
    (hown : ∀ i a p, e = .advance i → c.procs[i]? = some (a, p) → Stage c.store a p →
      Evolves c.store (p.step c.store).1 ∧ Stage (p.step c.store).1 a (p.step c.store).2) :
    Staged Stage (c.step handler e) := by
  cases e with
  | arrive a =>
    intro ap hap
    rcases List.mem_append.mp hap with h | h
    · exact hc ap h
    · rw [List.mem_singleton.mp h]
      exact hstart _ a
  | advance i =>
    cases hi : c.procs[i]? with
    | none =>
      have hsame : c.step handler (.advance i) = c := by simp only [Config.step, hi]
      rw [hsame]
      exact hc
    | some ap =>
      obtain ⟨a, p⟩ := ap
      have hmem : (a, p) ∈ c.procs := List.mem_of_getElem? hi
      obtain ⟨hev, hstage⟩ := hown i a p rfl hi (hc _ hmem)
      intro bq hbq
      simp only [Config.step, hi] at hbq ⊢
      rcases List.mem_or_eq_of_mem_set hbq with h | rfl
      · exact hothers _ _ _ _ hev (hc bq h)
      · exact hstage

/-! ### Answers -/

/-- The answer of a request that has finished. -/
def answered : α × Prog σ τ ρ → Option (α × ρ)
  | (a, .done r) => some (a, r)
  | _ => none

/-- The requests that have answered, with their answers. -/
def answers (c : Config σ τ ρ α) : List (α × ρ) :=
  c.procs.filterMap answered

/-! ### Serial execution -/

/-- The requests served one after another: the contents left and the answers, in order. -/
def serial : List α → σ → σ × List ρ
  | [], s => (s, [])
  | a :: as, s =>
    ((serial as ((handler a).alone s).1).1,
      ((handler a).alone s).2 :: (serial as ((handler a).alone s).1).2)

/-- The contents a serial execution leaves are those of a run. -/
theorem serial_fst : ∀ (as : List α) (s : σ),
    (serial handler as s).1 = run (fun s a => (handler a).after s) s as
  | [], _ => rfl
  | a :: as, s => serial_fst as ((handler a).after s)

theorem serial_append_singleton (a : α) : ∀ (as : List α) (s : σ),
    serial handler (as ++ [a]) s
      = (((handler a).alone (serial handler as s).1).1,
        (serial handler as s).2 ++ [((handler a).alone (serial handler as s).1).2])
  | [], _ => rfl
  | b :: as, s => by
    simp only [List.cons_append, serial, serial_append_singleton a as]

/-! ### Serializability at the last access -/

/-- An access that is not the last of its request leaves the database unchanged, and the last one
does what the whole request would do at that moment on its own. -/
def Atomic (c : Config σ τ ρ α) : Event α → Prop
  | .arrive _ => True
  | .advance i => ∀ a p, c.procs[i]? = some (a, p) → (∀ r, p ≠ .done r) →
      (∀ r, (p.step c.store).2 = .done r → (handler a).alone c.store = ((p.step c.store).1, r)) ∧
      ((∀ r, (p.step c.store).2 ≠ .done r) → (p.step c.store).1 = c.store)

/-- Replacing an entry on which `f` is undefined by one with value `y` adds `y`. -/
private theorem filterMap_set_perm {β γ : Type} {f : β → Option γ} {y : γ} {x x' : β} :
    ∀ {l : List β} {i : ℕ}, l[i]? = some x → f x = none → f x' = some y →
      ((l.set i x').filterMap f).Perm (l.filterMap f ++ [y])
  | [], i, h, _, _ => by simp at h
  | a :: l, 0, h, hx, hx' => by
    obtain rfl : a = x := by simpa using h
    rw [List.set_cons_zero, List.filterMap_cons_some hx', List.filterMap_cons_none hx]
    exact (List.perm_append_singleton y _).symm
  | a :: l, i + 1, h, hx, hx' => by
    have ih := filterMap_set_perm (l := l) (i := i) (by simpa using h) hx hx'
    rw [List.set_cons_succ]
    cases ha : f a with
    | none => rw [List.filterMap_cons_none ha, List.filterMap_cons_none ha]; exact ih
    | some b => rw [List.filterMap_cons_some ha, List.filterMap_cons_some ha]; exact ih.cons b

private theorem filterMap_set_of_none {β γ : Type} {f : β → Option γ} {x x' : β} :
    ∀ {l : List β} {i : ℕ}, l[i]? = some x → f x = f x' →
      (l.set i x').filterMap f = l.filterMap f
  | [], i, h, _ => by simp at h
  | a :: l, 0, h, hx => by
    obtain rfl : a = x := by simpa using h
    rw [List.set_cons_zero, List.filterMap_cons, List.filterMap_cons, hx]
  | a :: l, i + 1, h, hx => by
    have ih := filterMap_set_of_none (l := l) (i := i) (by simpa using h) hx
    rw [List.set_cons_succ, List.filterMap_cons, List.filterMap_cons, ih]

/-- The contents and the answers so far are those of serving the requests that have answered in
some order. -/
def SerialFrom (s : σ) (c : Config σ τ ρ α) : Prop :=
  ∃ order : List (α × ρ), order.Perm c.answers ∧
    serial handler (order.map Prod.fst) s = (c.store, order.map Prod.snd)

theorem serialFrom_idle (s : σ) : SerialFrom handler s (idle s) :=
  ⟨[], List.Perm.nil, rfl⟩

omit [Database σ τ] in
theorem answered_eq_none (a : α) {p : Prog σ τ ρ} (h : ∀ r, p ≠ .done r) :
    answered (a, p) = none := by
  cases p with
  | done r => exact absurd rfl (h r)
  | query k => rfl
  | flush ws k => rfl

/-- An event that changes neither the contents nor the answers. -/
theorem SerialFrom.unchanged {s : σ} {c c' : Config σ τ ρ α} (h : SerialFrom handler s c)
    (hs : c'.store = c.store) (ha : c'.answers = c.answers) : SerialFrom handler s c' := by
  obtain ⟨order, hperm, hser⟩ := h
  exact ⟨order, by rw [ha]; exact hperm, by rw [hser, hs]⟩

/-- A request answers: it goes last in the serial order. -/
theorem SerialFrom.answer {s : σ} {c c' : Config σ τ ρ α} (h : SerialFrom handler s c) (a : α)
    (hp : c'.answers.Perm (c.answers ++ [(a, ((handler a).alone c.store).2)]))
    (hs : c'.store = ((handler a).alone c.store).1) : SerialFrom handler s c' := by
  obtain ⟨order, hperm, hser⟩ := h
  refine ⟨order ++ [(a, ((handler a).alone c.store).2)], ?_, ?_⟩
  · exact (hperm.append_right _).trans hp.symm
  · rw [List.map_append, List.map_append, List.map_singleton, List.map_singleton,
      serial_append_singleton, hser, hs]

theorem answers_arrive (c : Config σ τ ρ α) (a : α) :
    (c.step handler (.arrive a)).answers = c.answers ++ (answered (a, handler a)).toList := by
  rw [answers, Config.step, List.filterMap_append, answers]
  cases h : answered (a, handler a) <;> simp [h]

theorem SerialFrom.step {s : σ} {c : Config σ τ ρ α} (h : SerialFrom handler s c) (e : Event α)
    (hatom : Atomic handler c e) : SerialFrom handler s (c.step handler e) := by
  cases e with
  | arrive a =>
    by_cases hdone : ∃ r, handler a = .done r
    · -- a handler that makes no access is served as it arrives
      obtain ⟨r, hr⟩ := hdone
      refine h.answer handler a ?_ ?_
      · rw [answers_arrive, hr]
        exact List.Perm.refl _
      · rw [hr]
        rfl
    · have hnone := answered_eq_none a fun r hr => hdone ⟨r, hr⟩
      refine h.unchanged handler rfl ?_
      rw [answers_arrive, hnone, Option.toList_none, List.append_nil]
  | advance i =>
    cases hi : c.procs[i]? with
    | none => simpa [Config.step, hi] using h
    | some ap =>
      obtain ⟨a, p⟩ := ap
      have hc : c.step handler (.advance i)
          = ⟨(p.step c.store).1, c.procs.set i (a, (p.step c.store).2)⟩ := by
        simp only [Config.step, hi]
      rw [hc]
      by_cases hdone : ∃ r, p = .done r
      · -- the request has already answered
        obtain ⟨r, rfl⟩ := hdone
        exact h.unchanged handler rfl (filterMap_set_of_none hi rfl)
      · have hne : ∀ r, p ≠ .done r := fun r hr => hdone ⟨r, hr⟩
        obtain ⟨hlast, hother⟩ := hatom a p hi hne
        by_cases hans : ∃ r, (p.step c.store).2 = .done r
        · obtain ⟨r, hr⟩ := hans
          have halone := hlast r hr
          refine h.answer handler a ?_ ?_
          · rw [halone, hr]
            exact filterMap_set_perm hi (answered_eq_none a hne) rfl
          · rw [halone]
        · have hne' : ∀ r, (p.step c.store).2 ≠ .done r := fun r hr => hans ⟨r, hr⟩
          refine h.unchanged handler (hother hne') (filterMap_set_of_none hi ?_)
          rw [answered_eq_none a hne, answered_eq_none a hne']

/-- **Serializability.**  An interleaving whose last accesses are atomic has the contents and the
answers of a serial execution. -/
theorem serialFrom_of_atomic (s : σ) (es : List (Event α))
    (h : Along (step handler) (Atomic handler) (idle s) es) :
    SerialFrom handler s (run (step handler) (idle s) es) :=
  run_invariant _ (fun _ e hc he => hc.step handler e he) es _ (serialFrom_idle handler s) h

end Config

/-! ### Interleavings with a journal -/

section Pending

variable {σ τ ρ α : Type} {a a' : α} {ws ws' : List τ} {k k' : Bool → Prog σ τ ρ}

/-- A request about to read is not about to write. -/
theorem not_flush_of_query {q : σ → Prog σ τ ρ}
    (h : some (a', Prog.query q) = some (a, .flush ws k)) : False := by
  cases h

/-- A request is about to make one unit of work. -/
theorem eq_of_flush (h : some (a', Prog.flush ws' k') = some (a, .flush ws k)) :
    a' = a ∧ ws' = ws := by
  cases h
  exact ⟨rfl, rfl⟩

end Pending

/-- A configuration, and the units of work committed so far, each with its request. -/
structure Logged (σ τ ρ α : Type) where
  config : Config σ τ ρ α
  journal : List (α × List τ)

namespace Logged

variable {σ τ ρ α : Type} [Database σ τ] (handler : α → Prog σ τ ρ)

/-- A database with no request under way and nothing committed yet. -/
def idle (s : σ) : Logged σ τ ρ α := ⟨Config.idle s, []⟩

/-- The unit of work an event commits. -/
def committed (c : Config σ τ ρ α) : Event α → Option (α × List τ)
  | .arrive _ => none
  | .advance i =>
    match c.procs[i]? with
    | some (a, .flush ws _) => (commit ws c.store).map fun _ => (a, ws)
    | _ => none

/-- One event, noted in the journal if it commits a unit of work. -/
def step (l : Logged σ τ ρ α) (e : Event α) : Logged σ τ ρ α :=
  ⟨l.config.step handler e, l.journal ++ (committed l.config e).toList⟩

variable {handler} {A : α → ρ → Prop} {P : α → List τ → (Bool → ρ) → Prop}

/-- Where a request stands: it has not made its unit of work, or it has answered after it, and if
it was committed it is in the journal. -/
def Standing (A : α → ρ → Prop) (P : α → List τ → (Bool → ρ) → Prop)
    (journal : List (α × List τ)) (ap : α × Prog σ τ ρ) : Prop :=
  Prog.EndsBy (A ap.1) (P ap.1) ap.2 ∨ ∃ ws f, P ap.1 ws f ∧
    (ap.2 = .done (f false) ∨ ap.2 = .done (f true) ∧ (ap.1, ws) ∈ journal)

omit [Database σ τ] in
theorem Standing.append {journal : List (α × List τ)} {ap : α × Prog σ τ ρ}
    (h : Standing A P journal ap) (more : List (α × List τ)) :
    Standing A P (journal ++ more) ap := by
  rcases h with h | ⟨ws, f, hP, h | ⟨h, hmem⟩⟩
  · exact Or.inl h
  · exact Or.inr ⟨ws, f, hP, Or.inl h⟩
  · exact Or.inr ⟨ws, f, hP, Or.inr ⟨h, List.mem_append_left _ hmem⟩⟩

/-- The contents and the journal meet `I`, and every request stands where its handler allows. -/
structure Holds (I : σ → List (α × List τ) → Prop) (A : α → ρ → Prop)
    (P : α → List τ → (Bool → ρ) → Prop) (l : Logged σ τ ρ α) : Prop where
  inv : I l.config.store l.journal
  procs : ∀ ap ∈ l.config.procs, Standing A P l.journal ap

/-- An access that commits nothing leaves the contents and the journal, and its request stands
where its handler allows. -/
private theorem Holds.silent {I : σ → List (α × List τ) → Prop} {l : Logged σ τ ρ α}
    (h : Holds I A P l) {i : ℕ} {a : α} {p p' : Prog σ τ ρ}
    (hi : l.config.procs[i]? = some (a, p)) (hc : committed l.config (.advance i) = none)
    (hstep : p.step l.config.store = (l.config.store, p')) (hp' : Standing A P l.journal (a, p')) :
    Holds I A P (l.step handler (.advance i)) := by
  have hnext : l.step handler (.advance i)
      = ⟨⟨l.config.store, l.config.procs.set i (a, p')⟩, l.journal⟩ := by
    simp only [step, Config.step, hi, hstep, hc, Option.toList_none, List.append_nil]
  rw [hnext]
  refine ⟨h.inv, fun ap hap => ?_⟩
  rcases List.mem_or_eq_of_mem_set hap with hap | rfl
  · exact h.procs ap hap
  · exact hp'

/-- **Journal rule.**  Requests that read and then make one unit of work keep an invariant of the
contents and the journal, if every unit of work they commit does. -/
theorem Holds.step {I : σ → List (α × List τ) → Prop}
    (hhandler : ∀ a, (handler a).EndsBy (A a) (P a)) {l : Logged σ τ ρ α} (h : Holds I A P l)
    (e : Event α)
    (hcommit : ∀ i a ws f s', e = .advance i →
      l.config.procs[i]? = some (a, .flush ws fun b => .done (f b)) → P a ws f →
      commit ws l.config.store = some s' → I s' (l.journal ++ [(a, ws)])) :
    Holds I A P (l.step handler e) := by
  cases e with
  | arrive a =>
    have hnext : l.step handler (.arrive a)
        = ⟨⟨l.config.store, l.config.procs ++ [(a, handler a)]⟩, l.journal⟩ := by
      simp only [Logged.step, Config.step, committed, Option.toList_none, List.append_nil]
    rw [hnext]
    refine ⟨h.inv, fun ap hap => ?_⟩
    rcases List.mem_append.mp hap with hap | hap
    · exact h.procs ap hap
    · rw [List.mem_singleton.mp hap]
      exact Or.inl (hhandler a)
  | advance i =>
    cases hi : l.config.procs[i]? with
    | none =>
      have hnext : l.step handler (.advance i) = l := by
        simp only [Logged.step, Config.step, committed, hi, Option.toList_none, List.append_nil]
      rw [hnext]
      exact h
    | some ap =>
      obtain ⟨a, p⟩ := ap
      have hstand := h.procs (a, p) (List.mem_of_getElem? hi)
      rcases hstand with hends | ⟨ws, f, hP, hdone⟩
      · change Prog.EndsBy (A a) (P a) p at hends
        cases hends with
        | done hr => exact h.silent hi (by simp only [committed, hi]) rfl (Or.inl (.done hr))
        | query hk => exact h.silent hi (by simp only [committed, hi]) rfl (Or.inl (hk _))
        | @flush ws f hP =>
          cases hc : commit ws l.config.store with
          | none =>
            exact h.silent hi (by simp only [committed, hi, hc, Option.map_none])
              (Prog.step_flush_none hc) (Or.inr ⟨ws, f, hP, Or.inl rfl⟩)
          | some s' =>
            have hnext : l.step handler (.advance i)
                = ⟨⟨s', l.config.procs.set i (a, .done (f true))⟩, l.journal ++ [(a, ws)]⟩ := by
              simp only [Logged.step, Config.step, committed, hi, hc, Prog.step_flush_some hc,
                Option.map_some, Option.toList_some]
            rw [hnext]
            refine ⟨hcommit i a ws f s' rfl hi hP hc, fun ap hap => ?_⟩
            rcases List.mem_or_eq_of_mem_set hap with hap | rfl
            · exact (h.procs ap hap).append _
            · exact Or.inr ⟨ws, f, hP, Or.inr ⟨rfl,
                List.mem_append_right _ (List.mem_singleton.mpr rfl)⟩⟩
      · -- the request has already answered
        obtain ⟨r, rfl⟩ : ∃ r, p = .done r := by
          rcases hdone with hp | ⟨hp, -⟩
          · exact ⟨_, hp⟩
          · exact ⟨_, hp⟩
        exact h.silent hi (by simp only [committed, hi]) rfl (Or.inr ⟨ws, f, hP, hdone⟩)

end Logged

end Biblio
