import Biblio.Store.Interleave

/-!
# A database inside a larger one

A handler written for a database `σ` also runs on a larger one `σ'` of which `σ` is a part:
`Prog.lift vue inj` reads the part `vue s'` and issues the statements `inj w`.

An invariant that every statement keeps holds in every interleaving (`Config.store_preserves`).
-/

namespace Biblio

variable {σ σ' τ τ' ρ : Type}

/-- The handler, on a larger database. -/
def Prog.lift (vue : σ' → σ) (inj : τ → τ') : Prog σ τ ρ → Prog σ' τ' ρ
  | .done r => .done r
  | .query k => .query fun s' => (k (vue s')).lift vue inj
  | .flush ws k => .flush (ws.map inj) fun b => (k b).lift vue inj

/-! ### Invariants of the statements -/

section Invariant

variable [Database σ τ] {I : σ → Prop} (hI : ∀ w s s', Database.exec w s = some s' → I s → I s')

include hI

theorem commit_preserves : ∀ (ws : List τ) {s s' : σ}, commit ws s = some s' → I s → I s'
  | [], _, _, h, hs => Option.some.inj h ▸ hs
  | w :: ws, s, _, h, hs => by
    obtain ⟨s₁, h₁, h₂⟩ := Option.bind_eq_some_iff.mp h
    exact commit_preserves ws h₂ (hI w s s₁ h₁ hs)

theorem Prog.step_preserves (p : Prog σ τ ρ) {s : σ} (hs : I s) : I (p.step s).1 := by
  cases p with
  | done r => exact hs
  | query k => exact hs
  | flush ws k =>
    cases hc : commit ws s with
    | none =>
      rw [Prog.step_flush_none hc]
      exact hs
    | some s' =>
      rw [Prog.step_flush_some hc]
      exact commit_preserves hI ws hc hs

theorem Prog.after_preserves (p : Prog σ τ ρ) {s : σ} (hs : I s) : I (p.after s) := by
  induction p generalizing s with
  | done r => exact hs
  | query k ih => exact ih s hs
  | flush ws k ih =>
    unfold Prog.after
    cases hc : commit ws s with
    | none =>
      rw [Prog.alone_flush_none hc]
      exact ih false hs
    | some s' =>
      rw [Prog.alone_flush_some hc]
      exact ih true (commit_preserves hI ws hc hs)

/-- **Invariant rule.**  What every statement keeps holds in every interleaving. -/
theorem Config.store_preserves {α : Type} (handler : α → Prog σ τ ρ) (es : List (Event α)) {s : σ}
    (hs : I s) : I (run (Config.step handler) (Config.idle s) es).store := by
  refine run_preserves (I := fun c : Config σ τ ρ α => I c.store) _ (fun c e hc => ?_) es _ hs
  cases e with
  | arrive a => exact hc
  | advance i =>
    cases hi : c.procs[i]? with
    | none => simpa only [Config.step, hi] using hc
    | some ap =>
      obtain ⟨a, p⟩ := ap
      simp only [Config.step, hi]
      exact p.step_preserves hI hc

end Invariant

end Biblio
