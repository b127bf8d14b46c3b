import Mathlib

/-!
Steps that can fail, alone and on a state. A state that was changed before a step failed stays as it
is then.
-/

namespace UdsCatalog

/-- One step and another succeed when each of them does. -/
theorem bind_eq_ok_iff {ε α β : Type} {first : Except ε α} {next : α → Except ε β} {result : β} :
    (first >>= next) = .ok result ↔ ∃ value, first = .ok value ∧ next value = .ok result := by
  cases first <;> simp [Bind.bind, Except.bind]

/-- One step and another fail when the first one does, or the second on what the first one gives. -/
theorem bind_eq_error_iff {ε α β : Type} {first : Except ε α} {next : α → Except ε β} {failure : ε} :
    (first >>= next) = .error failure ↔
      first = .error failure ∨ ∃ value, first = .ok value ∧ next value = .error failure := by
  cases first <;> simp [Bind.bind, Except.bind]

/-- Of several things the first one that does not pass ends in something. -/
def EndsFirst {α : Type} (passes ends : α → Prop) (things : List α) : Prop :=
  ∃ before first after, things = before ++ first :: after ∧ (∀ earlier ∈ before, passes earlier) ∧
    ends first

/-- Among no things there is no first one. -/
theorem not_endsFirst_nil {α : Type} (passes ends : α → Prop) : ¬ EndsFirst passes ends [] := by
  rintro ⟨before, first, after, whole, -⟩
  simp at whole

/-- The first thing is the head, or the head passes and the first one is among the others. -/
theorem endsFirst_cons_iff {α : Type} {passes ends : α → Prop} {head : α} {rest : List α} :
    EndsFirst passes ends (head :: rest) ↔ ends head ∨ passes head ∧ EndsFirst passes ends rest := by
  -- Either nothing stands in front of the one that ends, or the head is the first of what does.
  constructor
  · rintro ⟨before, first, after, whole, passed, ended⟩
    cases before with
    | nil =>
      cases whole
      exact .inl ended
    | cons other before =>
      cases whole
      exact .inr ⟨passed head (by simp), before, first, after, rfl,
        fun earlier member => passed earlier (by simp [member]), ended⟩
  · rintro (ended | ⟨passed, before, first, after, rfl, all, ended⟩)
    · exact ⟨[], head, rest, rfl, by simp, ended⟩
    · exact ⟨head :: before, first, after, rfl, by simpa using ⟨passed, all⟩, ended⟩

section State

variable {ε σ α β : Type} {step : ExceptT ε (StateM σ) α} {next : α → ExceptT ε (StateM σ) β}
  {before after : σ}

/-- A step hands its result and its state on, or ends the whole with its failure. -/
theorem run_bind_eq (step : ExceptT ε (StateM σ) α) (next : α → ExceptT ε (StateM σ) β) (before : σ) :
    (step >>= next).run.run before =
      match step.run.run before with
      | (.ok result, after) => (next result).run.run after
      | (.error failure, after) => (.error failure, after) := by
  -- Only what the first step ends with decides, so its end is all that is split.
  rw [ExceptT.run_bind, StateT.run_bind]
  rcases step.run.run before with ⟨result | result, after⟩ <;> rfl

/-- A step that succeeds hands its result and its state on. -/
theorem run_bind {result : α} (done : step.run.run before = (.ok result, after)) :
    (step >>= next).run.run before = (next result).run.run after := by
  rw [run_bind_eq, done]

/-- A step that fails ends the whole. -/
theorem run_bind_error {failure : ε} (failed : step.run.run before = (.error failure, after)) :
    (step >>= next).run.run before = (.error failure, after) := by
  rw [run_bind_eq, failed]

/-- One step and another succeed when each of them does, the second from where the first one ends. -/
theorem run_bind_eq_ok_iff {result : β} :
    (step >>= next).run.run before = (.ok result, after) ↔
      ∃ value between, step.run.run before = (.ok value, between) ∧
        (next value).run.run between = (.ok result, after) := by
  -- A first step that fails ends the whole with its failure, which is no result.
  constructor
  · intro whole
    rw [run_bind_eq] at whole
    split at whole
    · exact ⟨_, _, ‹_›, whole⟩
    · cases whole
  · rintro ⟨value, between, done, rest⟩
    rw [run_bind done, rest]

/-- One step and another fail when the first one does, or the second from where the first one ends. -/
theorem run_bind_eq_error_iff {failure : ε} :
    (step >>= next).run.run before = (.error failure, after) ↔
      step.run.run before = (.error failure, after) ∨
        ∃ value between, step.run.run before = (.ok value, between) ∧
          (next value).run.run between = (.error failure, after) := by
  -- The state is that of the step that failed: nothing is taken back.
  constructor
  · intro whole
    rw [run_bind_eq] at whole
    split at whole
    · exact .inr ⟨_, _, ‹_›, whole⟩
    · cases whole
      exact .inl ‹_›
  · rintro (failed | ⟨value, between, done, rest⟩)
    · exact run_bind_error failed
    · rw [run_bind done, rest]

end State

end UdsCatalog
