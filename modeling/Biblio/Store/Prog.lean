import Mathlib.Data.List.Basic

/-!
# Requests as programs over a database

`Prog σ τ ρ` is a request handler that talks to a database: it answers (`done`), asks one query
and continues with its result (`query`), or hands a unit of work, a list of statements executed
in one transaction, to the database and continues with whether it was committed (`flush`).  The
parameters are the committed contents `σ`, the statements `τ` and the answers `ρ`; `Database σ τ`
says what a statement does, `none` standing for a constraint violation, which rolls the whole
unit of work back.

One definition of a handler has two readings: `alone`, where nothing else touches the database
from its first query to its answer, and `step`, where it makes one access and yields.  The first
is used for requests executed one after another, the second for interleavings
(`Biblio.Store.Interleave`).
-/

namespace Biblio

/-- What the statements `τ` do to the contents `σ`; `none` is a constraint violation. -/
class Database (σ : Type) (τ : outParam Type) where
  exec : τ → σ → Option σ

/-- A unit of work: all the statements, or none of them. -/
def commit {σ τ : Type} [Database σ τ] : List τ → σ → Option σ
  | [], s => some s
  | w :: ws, s => (Database.exec w s).bind (commit ws)

theorem commit_append {σ τ : Type} [Database σ τ] : ∀ (ws ws' : List τ) (s : σ),
    commit (ws ++ ws') s = (commit ws s).bind (commit ws')
  | [], _, _ => rfl
  | w :: ws, ws', s => by
    rw [List.cons_append, commit, commit, Option.bind_assoc]
    exact congrArg _ (funext fun s' => commit_append ws ws' s')

/-- A request handler, as a sequence of accesses to the database. -/
inductive Prog (σ τ ρ : Type) where
  /-- The answer. -/
  | done (r : ρ)
  /-- A query of the committed contents. -/
  | query (k : σ → Prog σ τ ρ)
  /-- A unit of work; the rest gets whether it was committed. -/
  | flush (ws : List τ) (k : Bool → Prog σ τ ρ)

namespace Prog

variable {σ τ ρ β : Type}

/-- Sequencing: the rest of the handler gets the first part's result. -/
def bind : Prog σ τ ρ → (ρ → Prog σ τ β) → Prog σ τ β
  | done r, f => f r
  | query k, f => query fun s => (k s).bind f
  | flush ws k, f => flush ws fun b => (k b).bind f

instance : Monad (Prog σ τ) where
  pure := done
  bind := bind

/-- One query, returning what it reads. -/
def read (q : σ → β) : Prog σ τ β :=
  query fun s => done (q s)

/-- One unit of work, returning whether it was committed. -/
def save (ws : List τ) : Prog σ τ Bool :=
  flush ws done

@[simp] theorem pure_eq_done (r : ρ) : (pure r : Prog σ τ ρ) = done r := rfl

@[simp] theorem read_bind (q : σ → ρ) (f : ρ → Prog σ τ β) :
    (read q >>= f) = query fun s => f (q s) := rfl

@[simp] theorem save_bind (ws : List τ) (f : Bool → Prog σ τ β) :
    (save ws >>= f) = flush ws f := rfl

@[simp] theorem flush_bind (ws : List τ) (k : Bool → Prog σ τ ρ) (f : ρ → Prog σ τ β) :
    (flush ws k >>= f) = flush ws fun b => k b >>= f := rfl

/-! ### Handlers with one unit of work -/

/-- A handler that reads, and then answers with an `r` such that `A r`, or makes one last unit of
work `ws` with the answers `f` such that `P ws f`. -/
inductive EndsBy (A : ρ → Prop) (P : List τ → (Bool → ρ) → Prop) : Prog σ τ ρ → Prop
  | done {r : ρ} (h : A r) : EndsBy A P (done r)
  | query {k : σ → Prog σ τ ρ} (h : ∀ s, EndsBy A P (k s)) : EndsBy A P (query k)
  | flush {ws : List τ} {f : Bool → ρ} (h : P ws f) :
      EndsBy A P (flush ws fun b => Prog.done (f b))

/-- A handler that only reads. -/
def ReadOnly (p : Prog σ τ ρ) : Prop := EndsBy (fun _ => True) (fun _ _ => False) p

theorem ReadOnly.bind {p : Prog σ τ ρ} (hp : ReadOnly p) {f : ρ → Prog σ τ β} {A : β → Prop}
    {P : List τ → (Bool → β) → Prop} (hf : ∀ r, EndsBy A P (f r)) : EndsBy A P (p >>= f) := by
  induction hp with
  | done => exact hf _
  | query _ ih => exact .query fun s => ih s
  | flush h => exact h.elim

variable [Database σ τ]

/-! ### One access -/

/-- One access to the database: the contents and the rest of the handler after it. -/
def step : Prog σ τ ρ → σ → σ × Prog σ τ ρ
  | done r, s => (s, done r)
  | query k, s => (s, k s)
  | flush ws k, s =>
    match commit ws s with
    | some s' => (s', k true)
    | none => (s, k false)

@[simp] theorem step_query (k : σ → Prog σ τ ρ) (s : σ) : (query k).step s = (s, k s) := rfl

theorem step_flush_some {ws : List τ} {k : Bool → Prog σ τ ρ} {s s' : σ}
    (h : commit ws s = some s') : (flush ws k).step s = (s', k true) := by
  simp only [step, h]

theorem step_flush_none {ws : List τ} {k : Bool → Prog σ τ ρ} {s : σ}
    (h : commit ws s = none) : (flush ws k).step s = (s, k false) := by
  simp only [step, h]

/-! ### A request on its own -/

/-- The whole handler with nothing in between: the contents it leaves and its answer. -/
def alone : Prog σ τ ρ → σ → σ × ρ
  | done r, s => (s, r)
  | query k, s => (k s).alone s
  | flush ws k, s =>
    match commit ws s with
    | some s' => (k true).alone s'
    | none => (k false).alone s

@[simp] theorem alone_done (r : ρ) (s : σ) : (done r : Prog σ τ ρ).alone s = (s, r) := rfl

@[simp] theorem alone_query (k : σ → Prog σ τ ρ) (s : σ) :
    (query k).alone s = (k s).alone s := rfl

theorem alone_flush_some {ws : List τ} {k : Bool → Prog σ τ ρ} {s s' : σ}
    (h : commit ws s = some s') : (flush ws k).alone s = (k true).alone s' := by
  simp only [alone, h]

theorem alone_flush_none {ws : List τ} {k : Bool → Prog σ τ ρ} {s : σ}
    (h : commit ws s = none) : (flush ws k).alone s = (k false).alone s := by
  simp only [alone, h]

/-- Running the first part alone and then the rest. -/
theorem alone_bind (p : Prog σ τ ρ) (f : ρ → Prog σ τ β) (s : σ) :
    (p >>= f).alone s = (f (p.alone s).2).alone (p.alone s).1 := by
  induction p generalizing s with
  | done r => rfl
  | query k ih => exact ih s s
  | flush ws k ih =>
    rw [flush_bind]
    cases h : commit ws s with
    | some s' => rw [alone_flush_some h, alone_flush_some h, ih]
    | none => rw [alone_flush_none h, alone_flush_none h, ih]

/-- An access, and then the rest alone. -/
theorem alone_step (p : Prog σ τ ρ) (s : σ) : p.alone s = (p.step s).2.alone (p.step s).1 := by
  cases p with
  | done r => rfl
  | query k => rfl
  | flush ws k =>
    cases h : commit ws s with
    | some s' => rw [alone_flush_some h, step_flush_some h]
    | none => rw [alone_flush_none h, step_flush_none h]

/-- The contents a request leaves when it runs alone. -/
def after (p : Prog σ τ ρ) (s : σ) : σ := (p.alone s).1

/-- The answer of a request that runs alone. -/
def answer (p : Prog σ τ ρ) (s : σ) : ρ := (p.alone s).2

@[simp] theorem after_query (k : σ → Prog σ τ ρ) (s : σ) : (query k).after s = (k s).after s := rfl

/-- After a last unit of work: what it commits, or the contents unchanged. -/
theorem after_flush (ws : List τ) (k : Bool → Prog σ τ ρ) (s : σ)
    (hk : ∀ b s', (k b).after s' = s') : (flush ws k).after s = (commit ws s).getD s := by
  unfold after
  cases h : commit ws s with
  | some s' => rw [alone_flush_some h]; exact hk true s'
  | none => rw [alone_flush_none h]; exact hk false s

/-- A part that writes nothing, and then the rest with its answer. -/
theorem alone_bind_of_after (p : Prog σ τ ρ) (f : ρ → Prog σ τ β) (s : σ) (hp : p.after s = s) :
    (p >>= f).alone s = (f (p.answer s)).alone s := by
  unfold after at hp
  rw [alone_bind, hp]
  rfl

theorem after_bind (p : Prog σ τ ρ) (f : ρ → Prog σ τ β) (s : σ) (hp : p.after s = s) :
    (p >>= f).after s = (f (p.answer s)).after s :=
  congrArg Prod.fst (alone_bind_of_after p f s hp)

end Prog

end Biblio
