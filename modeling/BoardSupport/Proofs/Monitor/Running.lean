/-
This file puts runs together. A bounded run makes as many steps as it is allowed and
stops early only where there is nothing left to do, and a step from there leads
nowhere else. So bounded runs follow one another as steps do, and that a
configuration comes to another is shown step by step and stretch by stretch, without
counting.
-/

import BoardSupport.Monitor.Machine

namespace BoardSupport.Monitor.Machine

variable {v : Vocabulary}

theorem step_of_not_underWay (host : Host v) (machine : Machine v)
    (ended : machine.progress ≠ .underWay) : machine.step host = machine := by
  obtain ⟨session, stack, control⟩ := machine
  cases control with
  | call call => exact absurd rfl ended
  | perform operation => exact absurd rfl ended
  | abandon => rfl
  | deliver outcome =>
    cases stack with
    | nil => rfl
    | cons frame rest => exact absurd rfl ended

theorem run_succ (host : Host v) (steps : Nat) (machine : Machine v) :
    run host (steps + 1) machine = run host steps (machine.step host) := by
  by_cases underWay : machine.progress = .underWay
  · rw [run, underWay]
  · rw [step_of_not_underWay host machine underWay, run_of_not_underWay host _ machine underWay,
      run_of_not_underWay host _ machine underWay]

theorem run_add (host : Host v) (first second : Nat) (machine : Machine v) :
    run host (first + second) machine = run host second (run host first machine) := by
  induction first generalizing machine with
  | zero => rw [Nat.zero_add, run]
  | succ first inductionHypothesis =>
    rw [Nat.add_right_comm, run_succ, run_succ, inductionHypothesis]

/-- A run from one configuration comes to another. -/
def RunsTo (host : Host v) (machine later : Machine v) : Prop :=
  ∃ steps, run host steps machine = later

theorem RunsTo.refl (host : Host v) (machine : Machine v) : machine.RunsTo host machine :=
  ⟨0, rfl⟩

theorem RunsTo.trans {host : Host v} {first middle last : Machine v}
    (earlier : first.RunsTo host middle) (later : middle.RunsTo host last) :
    first.RunsTo host last := by
  obtain ⟨before, rfl⟩ := earlier
  obtain ⟨after, rfl⟩ := later
  exact ⟨before + after, run_add host before after first⟩

/-- A run begins with a step. -/
theorem RunsTo.of_step {host : Host v} {machine later : Machine v}
    (rest : (machine.step host).RunsTo host later) : machine.RunsTo host later := by
  obtain ⟨steps, rfl⟩ := rest
  exact ⟨steps + 1, run_succ host steps machine⟩

end BoardSupport.Monitor.Machine
