/-
**Runs of operations.** An operation that can be refused ends with a value or with an error, and in
either case with a state. A run of two operations one after the other ends as the second does, or as
the first does if that was refused.

* `run_bind_ok_iff`, `run_bind_error_iff`: how a run of two operations ends;
* `Keeps`: an operation keeps an invariant, however it ends, with `Keeps.bind` and `Keeps.mapM`.
-/

namespace SemanticNetwork

variable {ε σ α β : Type}

/-- A run of two operations succeeds if both succeed. -/
theorem run_bind_ok_iff {action : EStateM ε σ α} {next : α → EStateM ε σ β} {state after : σ}
    {value : β} : (action >>= next).run state = .ok value after ↔
      ∃ middle between, action.run state = .ok middle between ∧
        (next middle).run between = .ok value after := by
  rw [EStateM.run_bind]
  cases action.run state with
  | ok middle between => simp [and_assoc]
  | error error between => simp

theorem run_bind_error_iff {action : EStateM ε σ α} {next : α → EStateM ε σ β} {state after : σ}
    {error : ε} : (action >>= next).run state = .error error after ↔
      action.run state = .error error after ∨
        ∃ middle between, action.run state = .ok middle between ∧
          (next middle).run between = .error error after := by
  rw [EStateM.run_bind]
  cases action.run state with
  | ok middle between => simp [and_assoc]
  | error error between => simp

theorem bind_eq_ok_iff {first : Except ε α} {next : α → Except ε β} {value : β} :
    (first >>= next) = .ok value ↔ ∃ middle, first = .ok middle ∧ next middle = .ok value := by
  cases first with
  | error error => simp [bind, Except.bind]
  | ok middle => simp [bind, Except.bind]

/-- An operation keeps an invariant, whether it succeeds or is refused. -/
structure Keeps (invariant : σ → Prop) (action : EStateM ε σ α) : Prop where
  ok : ∀ {state value after}, invariant state → action.run state = .ok value after →
    invariant after
  error : ∀ {state error after}, invariant state → action.run state = .error error after →
    invariant after

variable {invariant : σ → Prop}

theorem Keeps.pure (value : α) : Keeps invariant (pure value : EStateM ε σ α) where
  ok holds ran := by cases ran; exact holds
  error _ ran := by cases ran

theorem Keeps.throw (error : ε) : Keeps invariant (throw error : EStateM ε σ α) where
  ok _ ran := by cases ran
  error holds ran := by cases ran; exact holds

theorem Keeps.get : Keeps invariant (get : EStateM ε σ σ) where
  ok holds ran := by cases ran; exact holds
  error _ ran := by cases ran

theorem Keeps.modify {change : σ → σ} (kept : ∀ state, invariant state → invariant (change state)) :
    Keeps invariant (modify change : EStateM ε σ PUnit) where
  ok holds ran := by cases ran; exact kept _ holds
  error _ ran := by cases ran

/-- **What both operations keep, a run of both keeps.** -/
theorem Keeps.bind {action : EStateM ε σ α} {next : α → EStateM ε σ β}
    (first : Keeps invariant action) (second : ∀ value, Keeps invariant (next value)) :
    Keeps invariant (action >>= next) where
  ok holds ran := by
    obtain ⟨middle, between, ranFirst, ranSecond⟩ := run_bind_ok_iff.1 ran
    exact (second middle).ok (first.ok holds ranFirst) ranSecond
  error holds ran := by
    rcases run_bind_error_iff.1 ran with ranFirst | ⟨middle, between, ranFirst, ranSecond⟩
    · exact first.error holds ranFirst
    · exact (second middle).error (first.ok holds ranFirst) ranSecond

/-- **What every operation of a list keeps, a run of all keeps.** -/
theorem Keeps.mapM {step : α → EStateM ε σ β} (each : ∀ item, Keeps invariant (step item))
    (items : List α) : Keeps invariant (items.mapM step) := by
  induction items with
  | nil =>
    rw [List.mapM_nil]
    exact .pure []
  | cons item rest hypothesis =>
    rw [List.mapM_cons]
    exact (each item).bind fun _ => hypothesis.bind fun _ => .pure _

end SemanticNetwork
