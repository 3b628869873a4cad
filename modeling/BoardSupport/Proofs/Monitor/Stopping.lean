/-
This file proves that stopping is final until the next start. A stop can come at
any moment at which the host has the say: in the pause of the task, after the
pause has ended, or while the counters are being read and the load is not yet
published. The task looks at its flag at three places, and between them these close every
window: from the stop on the task publishes nothing and begins no pause, however
many of its bodies are in progress and however often it is run again, and each
body ends as soon as it has the say. The sampler then changes only by direct
samples.
-/

import BoardSupport.Proofs.Monitor.Lifecycle

namespace BoardSupport.Monitor

variable {v : Vocabulary}

/-! ### Steps of a monitor that is off -/

namespace Machine

/-- While the monitor is off and is not being started, the task enters nothing in the journal and
the sampler is not cleared. -/
theorem grown_of_off {host : Host v} {machine next : Machine v}
    (taken : Transition host machine next) (off : machine.session.monitor.Lives .off)
    (unstarted : machine.switching ≠ some true) :
    Session.Grown (fun event => event.ofTask = false ∧ event ≠ .cleared) machine.session
      next.session := by
  refine (grown_of_transition taken).mono fun event permitted => ⟨?_, fun cleared => ?_⟩
  · cases task : event.ofTask with
    | false => rfl
    | true =>
      have wanted := permitted.task task
      rw [off.2.1] at wanted
      cases wanted
  · exact unstarted (permitted.cleared cleared)

/-- While the monitor is off and is not being started, a step changes the sampler only by
publishing a direct sample. -/
theorem sampler_of_off {host : Host v} {machine next : Machine v}
    (taken : Transition host machine next) (off : machine.session.monitor.Lives .off)
    (unstarted : machine.switching ≠ some true) :
    next.session.monitor.sampler = machine.session.monitor.sampler ∨
      ∃ reading rest, machine.Resumes (.sampling false reading) rest ∧
        next.session.monitor.sampler = (machine.session.monitor.sampler.update reading).2 := by
  cases taken with
  | switch on outcome asked =>
    cases on with
    | true => exact absurd asked unstarted
    | false =>
      left
      rw [Session.switch_off_of_off host machine.session off]
  | enter asked wanted => rw [off.2.1] at wanted; cases wanted
  | wake rest outcome given top wanted => rw [off.2.1] at wanted; cases wanted
  | publish reading rest outcome given top wanted => rw [off.2.1] at wanted; cases wanted
  | conclude reading rest outcome given top =>
    exact .inr ⟨reading, rest, ⟨outcome, given, top⟩, rfl⟩
  | _ => exact .inl rfl

theorem off_step (host : Host v) (machine : Machine v)
    (off : machine.session.monitor.Lives .off) (unstarted : machine.switching ≠ some true) :
    (machine.step host).session.monitor.Lives .off := by
  have steps := stepsAs_of_lives host machine .off off
  cases asked : machine.switching with
  | none => exact (steps.unswitched asked).1
  | some on =>
    cases on with
    | true => exact absurd asked unstarted
    | false => rw [steps.stopOff rfl asked]; exact off

/-! ### Until the next start -/

/-- Moves on which the monitor is not started. -/
def Unstarted (host : Host v) : Machine v → Machine v → Prop :=
  Relation.ReflTransGen fun before after => Move host before after ∧ before.switching ≠ some true

theorem Unstarted.off {host : Host v} {machine later : Machine v}
    (unstarted : Unstarted host machine later) (off : machine.session.monitor.Lives .off) :
    later.session.monitor.Lives .off := by
  induction unstarted with
  | refl => exact off
  | tail _ taken inductionHypothesis =>
    obtain ⟨move, quiet⟩ := taken
    cases move with
    | step => exact off_step host _ inductionHypothesis quiet
    | next => exact inductionHypothesis

theorem Unstarted.grown {host : Host v} {machine later : Machine v}
    (unstarted : Unstarted host machine later) (off : machine.session.monitor.Lives .off) :
    Session.Grown (fun event => event.ofTask = false ∧ event ≠ .cleared) machine.session
      later.session := by
  induction unstarted with
  | refl => exact .refl _ _
  | tail path taken inductionHypothesis =>
    obtain ⟨move, quiet⟩ := taken
    cases move with
    | step =>
      exact inductionHypothesis.trans
        (grown_of_off (transition_step host _) (Unstarted.off path off) quiet)
    | next outcome state control given empty => exact inductionHypothesis

/-- A body that has the say while the monitor is off ends: it reads no counters, publishes nothing
and begins no pause. -/
theorem step_of_body_off (host : Host v) (machine : Machine v) (frame : Frame v)
    (below : List (Frame v)) (off : machine.session.monitor.shouldRun = false)
    (task : frame.ofTask = true) (resumes : machine.Resumes frame below) :
    machine.step host = { machine with stack := below, control := .deliver .done } := by
  obtain ⟨session, stack, control⟩ := machine
  obtain ⟨outcome, given, top⟩ := resumes
  cases given
  cases top
  cases frame with
  | delaying => exact wakeTask_of_unwanted host _ off
  | sampling byTask reading =>
    cases task
    exact endSample_of_unwanted host reading _ off
  | host frame => cases task

theorem step_of_runTask_off (host : Host v) (machine : Machine v)
    (off : machine.session.monitor.shouldRun = false)
    (asked : machine.control = .call .runTask) :
    machine.step host = { machine with control := .deliver .done } := by
  obtain ⟨session, stack, control⟩ := machine
  cases asked
  exact loopTask_of_unwanted host _ off

end Machine

/-- Stopping is final until the next start. Whenever a stop is carried out, whatever is in progress
then, and at every later moment before the next start: the task has published nothing and begun no
pause since the stop; the sampler has changed only by direct samples, and can next change only by
one; and every body of the task that has the say ends at once, whether it was in progress at the
stop or is run later. -/
theorem stop_final_until_start (host : Host v) (machine later : Machine v)
    (reachable : Reachable host machine) (stopping : machine.switching = some false)
    (unstarted : (machine.step host).Unstarted host later) :
    (∃ entries, later.session.journal = entries ++ (machine.step host).session.journal ∧
      (∀ event ∈ entries, event.ofTask = false) ∧
      ((∀ sample, .stored false sample ∉ entries) →
        later.session.monitor.sampler = (machine.step host).session.monitor.sampler)) ∧
    (later.switching ≠ some true →
      (later.step host).session.monitor.sampler = later.session.monitor.sampler ∨
        ∃ reading below, later.Resumes (.sampling false reading) below ∧
          (later.step host).session.monitor.sampler =
            (later.session.monitor.sampler.update reading).2) ∧
    (∀ frame below, frame.ofTask = true → later.Resumes frame below →
      later.step host = { later with stack := below, control := .deliver .done }) ∧
    (later.control = .call .runTask →
      later.step host = { later with control := .deliver .done }) := by
  obtain ⟨life, lives, -⟩ := reachable.follows
  have stopped : (machine.step host).session.monitor.Lives .off := by
    have steps := Machine.stepsAs_of_lives host machine life lives
    cases life with
    | off => rw [steps.stopOff rfl stopping]; exact lives
    | on handle => exact (steps.stopOn handle rfl stopping).2.2
  have off := unstarted.off stopped
  refine ⟨?_, fun quiet => ?_, ?_, ?_⟩
  · obtain ⟨entries, journal, quiet, sampler⟩ := unstarted.grown stopped
    refine ⟨entries, journal, fun event member => (quiet event member).1, fun indirect => ?_⟩
    refine sampler fun event member => ?_
    obtain ⟨untasked, uncleared⟩ := quiet event member
    cases event with
    | cleared => exact absurd rfl uncleared
    | stored byTask sample =>
      cases byTask with
      | true => cases untasked
      | false => exact absurd member (indirect sample)
    | _ => rfl
  · exact Machine.sampler_of_off (Machine.transition_step host later) off quiet
  · intro frame below task resumes
    exact Machine.step_of_body_off host later frame below off.2.1 task resumes
  · exact Machine.step_of_runTask_off host later off.2.1

/-- In the rehearsal with a restart, the first stop leaves the sampler alone up to the start that
follows it, and the body that sees the second one ends. -/
theorem stop_final_until_start_restarted :
    (Rehearsal.restarting 6).switching = some true ∧
      (Rehearsal.restarting 6).session.monitor.sampler =
        (Rehearsal.restarting 4).session.monitor.sampler ∧
      (Rehearsal.restarting 11).step Rehearsal.host =
        { Rehearsal.restarting 11 with
          stack := (Rehearsal.restarting 11).stack.tail
          control := .deliver .done } := by
  have first : (Rehearsal.restarting 4).Unstarted Rehearsal.host (Rehearsal.restarting 6) :=
    (Relation.ReflTransGen.single ⟨.step, nofun⟩).tail ⟨.step, nofun⟩
  obtain ⟨entries, journal, -, sampler⟩ :=
    (stop_final_until_start Rehearsal.host (Rehearsal.restarting 3) (Rehearsal.restarting 6)
      (Rehearsal.reachable_restarting 3) rfl first).1
  have second := (stop_final_until_start Rehearsal.host (Rehearsal.restarting 10)
    (Rehearsal.restarting 11) (Rehearsal.reachable_restarting 10) rfl .refl).2.2.1
  have noted : entries = [.note (.switched (.ok ()))] := List.append_cancel_right journal.symm
  have resumes : (Rehearsal.restarting 11).Resumes .delaying
      (Rehearsal.restarting 11).stack.tail := ⟨.switched (.ok ()), rfl, rfl⟩
  refine ⟨rfl, sampler fun sample member => ?_, second .delaying _ rfl resumes⟩
  rw [noted] at member
  cases List.mem_singleton.mp member

end BoardSupport.Monitor
