import Biblio.Store.Lift
import Mathlib.Data.List.Induction

/-!
# Cells of a database

A `Cell` is a part of a database whose contents a statement sets or leaves, whatever the rest of
the database is: a column of a row, the presence of a row.  `Writes ok x l y` says that the contents
go from `x` through the values of `l` to `y`; the values are those of the statements committed since
(`Cell.writes_run`), so that the last of them is the contents (`Writes.getLast`).

`Prog.Makes V ws p` says that a handler makes the unit of work `ws` after queries of contents that
meet `V`.  In every interleaving, the unit of work a request is about to make is one that its
handler makes after queries of the contents at the request's own accesses
(`Logged.makes_of_procs`).
-/

namespace Biblio

/-! ### Values of a cell -/

section Writes

variable {β : Type} {ok : β → β → Prop} {x y z v : β} {l l' : List β}

/-- From `x` through the values `l` to `y`, where a value follows another one if `ok`. -/
inductive Writes (ok : β → β → Prop) : β → List β → β → Prop
  | nil (x : β) : Writes ok x [] x
  | cons {x v y : β} {l : List β} (hv : ok x v) (h : Writes ok v l y) : Writes ok x (v :: l) y

theorem Writes.append (h : Writes ok x l y) (h' : Writes ok y l' z) :
    Writes ok x (l ++ l') z := by
  induction h with
  | nil x => exact h'
  | cons hv _ ih => exact .cons hv (ih h')

/-- The last value is the one that stays. -/
theorem Writes.getLast (h : Writes ok x l y) : y = l.getLast?.getD x := by
  induction h with
  | nil x => rfl
  | @cons x v y l _ _ ih =>
    rw [ih, List.getLast?_cons]
    rfl

end Writes

/-! ### Cells -/

/-- A part of the database, where `I` holds. -/
structure Cell (σ τ β : Type) [Database σ τ] where
  get : σ → β
  /-- The value a statement sets. -/
  write : τ → Option β
  /-- What the old and the new value have to do with each other. -/
  ok : β → β → Prop
  I : σ → Prop
  inv : ∀ {w s s'}, Database.exec w s = some s' → I s → I s'
  left : ∀ {w s s'}, Database.exec w s = some s' → I s → write w = none → get s' = get s
  set : ∀ {w s s' v}, Database.exec w s = some s' → I s → write w = some v →
    get s' = v ∧ ok (get s) v

namespace Cell

variable {σ τ ρ α β : Type} [Database σ τ] (c : Cell σ τ β)

/-- The values that units of work set, one after the other. -/
def writes (journal : List (α × List τ)) : List β := journal.flatMap fun x => x.2.filterMap c.write

theorem writes_commit : ∀ {ws : List τ} {s s' : σ}, commit ws s = some s' → c.I s →
    c.I s' ∧ Writes c.ok (c.get s) (ws.filterMap c.write) (c.get s')
  | [], s, s', h, hs => by
    obtain rfl := Option.some.inj h
    exact ⟨hs, .nil _⟩
  | w :: ws, s, s', h, hs => by
    obtain ⟨s₁, h₁, h₂⟩ := Option.bind_eq_some_iff.mp h
    obtain ⟨hs', hrest⟩ := writes_commit h₂ (c.inv h₁ hs)
    refine ⟨hs', ?_⟩
    cases hw : c.write w with
    | none =>
      rw [List.filterMap_cons_none hw, ← c.left h₁ hs hw]
      exact hrest
    | some v =>
      obtain ⟨hget, hok⟩ := c.set h₁ hs hw
      rw [List.filterMap_cons_some hw]
      exact .cons hok (hget ▸ hrest)

/-- One event of an interleaving. -/
theorem writes_step (handler : α → Prog σ τ ρ) (l : Logged σ τ ρ α) (e : Event α)
    (hl : c.I l.config.store) :
    c.I (l.step handler e).config.store ∧ ∃ more, (l.step handler e).journal = l.journal ++ more ∧
      Writes c.ok (c.get l.config.store) (c.writes more)
        (c.get (l.step handler e).config.store) := by
  have hsilent : ∀ l' : Logged σ τ ρ α, l'.config.store = l.config.store →
      l'.journal = l.journal → c.I l'.config.store ∧ ∃ more, l'.journal = l.journal ++ more ∧
        Writes c.ok (c.get l.config.store) (c.writes more) (c.get l'.config.store) := by
    intro l' hstore hjournal
    rw [hstore, hjournal]
    exact ⟨hl, [], (List.append_nil _).symm, .nil _⟩
  cases e with
  | arrive a => exact hsilent _ rfl (List.append_nil _)
  | advance i =>
    cases hi : l.config.procs[i]? with
    | none =>
      refine hsilent _ ?_ ?_
      · simp only [Logged.step, Config.step, hi]
      · simp only [Logged.step, Logged.committed, hi, Option.toList_none, List.append_nil]
    | some ap =>
      obtain ⟨a, p⟩ := ap
      have hstore : (l.step handler (.advance i)).config.store = (p.step l.config.store).1 := by
        simp only [Logged.step, Config.step, hi]
      cases p with
      | done r =>
        refine hsilent _ hstore ?_
        simp only [Logged.step, Logged.committed, hi, Option.toList_none, List.append_nil]
      | query k =>
        refine hsilent _ hstore ?_
        simp only [Logged.step, Logged.committed, hi, Option.toList_none, List.append_nil]
      | flush ws k =>
        cases hc : commit ws l.config.store with
        | none =>
          rw [Prog.step_flush_none hc] at hstore
          refine hsilent _ hstore ?_
          simp only [Logged.step, Logged.committed, hi, hc, Option.map_none, Option.toList_none,
            List.append_nil]
        | some s' =>
          rw [Prog.step_flush_some hc] at hstore
          obtain ⟨hs', hwrites⟩ := c.writes_commit hc hl
          rw [hstore]
          refine ⟨hs', [(a, ws)], ?_, ?_⟩
          · simp only [Logged.step, Logged.committed, hi, hc, Option.map_some, Option.toList_some]
          · rw [writes, List.flatMap_cons, List.flatMap_nil, List.append_nil]
            exact hwrites

/-- **Last writer.**  In every interleaving, from any moment of it on, the contents of a cell go
through the values that the committed units of work set. -/
theorem writes_run (handler : α → Prog σ τ ρ) : ∀ (es : List (Event α)) (l : Logged σ τ ρ α),
    c.I l.config.store →
      ∃ more, (run (Logged.step handler) l es).journal = l.journal ++ more ∧
        Writes c.ok (c.get l.config.store) (c.writes more)
          (c.get (run (Logged.step handler) l es).config.store)
  | [], l, _ => ⟨[], (List.append_nil _).symm, .nil _⟩
  | e :: es, l, hl => by
    obtain ⟨hl', more, hmore, hwrites⟩ := c.writes_step handler l e hl
    obtain ⟨rest, hrest, hwrites'⟩ := writes_run handler es (l.step handler e) hl'
    refine ⟨more ++ rest, ?_, ?_⟩
    · rw [← List.append_assoc, ← hmore]
      exact hrest
    · rw [writes, List.flatMap_append]
      exact hwrites.append hwrites'

end Cell

/-! ### What a request has read -/

namespace Prog

variable {σ τ ρ : Type}

/-- The handler makes the unit of work `ws` after queries of contents that meet `V`. -/
def Makes (V : σ → Prop) (ws : List τ) : Prog σ τ ρ → Prop
  | done _ => False
  | query k => ∃ s, V s ∧ (k s).Makes V ws
  | flush ws' k => ws' = ws ∨ ∃ b, (k b).Makes V ws

variable {V : σ → Prop} {ws : List τ}

theorem makes_read_bind {β : Type} {q : σ → β} {f : β → Prog σ τ ρ}
    (h : (read q >>= f).Makes V ws) : ∃ s, V s ∧ (f (q s)).Makes V ws :=
  h

theorem makes_ite {c : Prop} [Decidable c] {p q : Prog σ τ ρ}
    (h : (if c then p else q).Makes V ws) : c ∧ p.Makes V ws ∨ ¬ c ∧ q.Makes V ws := by
  split at h
  · exact Or.inl ⟨‹c›, h⟩
  · exact Or.inr ⟨‹¬ c›, h⟩

/-- A unit of work of a handler that makes only one. -/
theorem EndsBy.of_makes {A : ρ → Prop} {P : List τ → (Bool → ρ) → Prop} {p : Prog σ τ ρ}
    (hp : EndsBy A P p) (h : p.Makes V ws) : ∃ f, P ws f := by
  induction hp with
  | done _ => exact h.elim
  | query _ ih =>
    obtain ⟨s, -, hs⟩ := h
    exact ih s hs
  | @flush ws' f hP =>
    rcases h with rfl | ⟨b, hb⟩
    · exact ⟨f, hP⟩
    · exact hb.elim

/-- A handler on a larger database makes its own units of work there. -/
theorem makes_of_lift {σ' τ' : Type} {vue : σ' → σ} {inj : τ → τ'} {V : σ' → Prop} {ws : List τ'}
    {p : Prog σ τ ρ} (h : (p.lift vue inj).Makes V ws) :
    ∃ ws₀, p.Makes (fun _ => True) ws₀ ∧ ws₀.map inj = ws := by
  induction p with
  | done r => exact h.elim
  | query k ih =>
    obtain ⟨s, -, hs⟩ := h
    obtain ⟨ws₀, hws₀, hmap⟩ := ih (vue s) hs
    exact ⟨ws₀, ⟨vue s, trivial, hws₀⟩, hmap⟩
  | flush ws' k ih =>
    rcases h with hmap | ⟨b, hb⟩
    · exact ⟨ws', Or.inl rfl, hmap⟩
    · obtain ⟨ws₀, hws₀, hmap⟩ := ih b hb
      exact ⟨ws₀, Or.inr ⟨b, hws₀⟩, hmap⟩

/-- An access takes a handler to one that makes no other units of work. -/
theorem Makes.of_step [Database σ τ] {p : Prog σ τ ρ} {s : σ} (hs : V s)
    (h : (p.step s).2.Makes V ws) : p.Makes V ws := by
  cases p with
  | done r => exact h
  | query k => exact ⟨s, hs, h⟩
  | flush ws' k =>
    right
    cases hc : commit ws' s with
    | none =>
      rw [step_flush_none hc] at h
      exact ⟨false, h⟩
    | some s' =>
      rw [step_flush_some hc] at h
      exact ⟨true, h⟩

end Prog

namespace Logged

variable {σ τ ρ α : Type} [Database σ τ] {handler : α → Prog σ τ ρ}

/-- Contents at an access of the `i`-th request. -/
def Seen (handler : α → Prog σ τ ρ) (s : σ) (es : List (Event α)) (i : ℕ) (t : σ) : Prop :=
  ∃ es', es' ++ [.advance i] <+: es ∧ t = (run (step handler) (idle s) es').config.store

theorem Seen.append {s t : σ} {es : List (Event α)} {i : ℕ} (h : Seen handler s es i t)
    (more : List (Event α)) : Seen handler s (es ++ more) i t := by
  obtain ⟨es', hpre, rfl⟩ := h
  exact ⟨es', hpre.trans (List.prefix_append es more), rfl⟩

/-- What a request may still make is made by its handler after queries of contents it has seen. -/
theorem makes_of_procs (s : σ) (es : List (Event α)) : ∀ {i : ℕ} {a : α} {p : Prog σ τ ρ},
    (run (step handler) (idle s) es).config.procs[i]? = some (a, p) →
      ∀ {V : σ → Prop}, (∀ t, Seen handler s es i t → V t) →
        ∀ {ws : List τ}, p.Makes V ws → (handler a).Makes V ws := by
  induction es using List.reverseRecOn with
  | nil =>
    intro i a p hp
    cases hp
  | append_singleton es e ih =>
    intro i a p hp V hV ws hws
    have hV' : ∀ t, Seen handler s es i t → V t := fun t ht => hV t (ht.append [e])
    rw [run_append] at hp
    set l := run (step handler) (idle s) es with hl
    change (l.config.step handler e).procs[i]? = some (a, p) at hp
    cases e with
    | arrive a' =>
      change (l.config.procs ++ [(a', handler a')])[i]? = some (a, p) at hp
      rw [List.getElem?_append] at hp
      split_ifs at hp with hlt
      · exact ih hp hV' hws
      · -- the request has just arrived
        rw [List.getElem?_singleton] at hp
        split_ifs at hp
        cases hp
        exact hws
    | advance j =>
      cases hj : l.config.procs[j]? with
      | none =>
        simp only [Config.step, hj] at hp
        exact ih hp hV' hws
      | some ap =>
        obtain ⟨a₀, p₀⟩ := ap
        simp only [Config.step, hj] at hp
        by_cases hij : j = i
        · -- the request's own access
          subst hij
          rw [List.getElem?_set_self (List.getElem?_eq_some_iff.mp hj).1] at hp
          cases hp
          exact ih hj hV' (hws.of_step (hV _ ⟨es, List.prefix_refl _, rfl⟩))
        · rw [List.getElem?_set_ne hij] at hp
          exact ih hp hV' hws

/-- The units of work noted from some moment on are those of requests about to make them. -/
theorem exists_flush_of_run : ∀ (es : List (Event α)) (l : Logged σ τ ρ α),
    ∃ more, (run (step handler) l es).journal = l.journal ++ more ∧
      ∀ x ∈ more, ∃ es₁ i k, es₁ ++ [.advance i] <+: es ∧
        (run (step handler) l es₁).config.procs[i]? = some (x.1, .flush x.2 k)
  | [], l => ⟨[], (List.append_nil _).symm, fun x hx => by cases hx⟩
  | e :: es, l => by
    obtain ⟨rest, hrest, hmem⟩ := exists_flush_of_run es (l.step handler e)
    refine ⟨(committed l.config e).toList ++ rest, ?_, fun x hx => ?_⟩
    · rw [← List.append_assoc]
      exact hrest
    rcases List.mem_append.mp hx with hx | hx
    · have hx : committed l.config e = some x := Option.mem_toList.mp hx
      cases e with
      | arrive a => cases hx
      | advance i =>
        refine ⟨[], i, ?_⟩
        simp only [committed] at hx
        split at hx
        · next a ws k hi =>
          obtain ⟨s', -, rfl⟩ := Option.map_eq_some_iff.mp hx
          exact ⟨k, List.prefix_append [_] es, hi⟩
        · cases hx
    · obtain ⟨es₁, i, k, hpre, hflush⟩ := hmem x hx
      exact ⟨e :: es₁, i, k, List.cons_prefix_cons.mpr ⟨rfl, hpre⟩, hflush⟩

end Logged

end Biblio
