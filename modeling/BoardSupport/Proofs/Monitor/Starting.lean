/-
This file says what a start does to the sampler. A start that finds the monitor off
puts the sampler back to zero before it asks the host for the task, and that has two
consequences which the two main theorems measure exactly. If the host refuses, the
flags and the handle are as before, and the load that was published last is gone. If
the host agrees, the first window of the session is measured from counters at zero,
wherever the counters stand: it reports the session alone only if both of them stood
at zero when the session began.
-/

import BoardSupport.Proofs.Load.Window
import BoardSupport.Proofs.Monitor.Lifecycle
import BoardSupport.Proofs.Monitor.Publishing
import BoardSupport.Proofs.Monitor.Reading

namespace BoardSupport.Monitor

variable {v : Vocabulary}

/-! ### The two ways in which a start ends -/

namespace Session

theorem start_of_accepted (host : Host v) (session : Session v) (handle : v.Handle)
    (off : session.monitor.running = false)
    (accepted : (host.spawn samplingTask session.state).1 = .ok handle) :
    (session.start host).1 = .ok () ∧
      (session.start host).2.monitor = ⟨true, true, some handle, .zero⟩ := by
  rcases answer : host.spawn samplingTask session.state with ⟨result, state⟩
  rw [answer] at accepted
  cases accepted
  simp only [start, off, answer, Bool.false_eq_true, if_false, and_self]

theorem start_of_refused (host : Host v) (session : Session v) (cause : Fault)
    (off : session.monitor.running = false)
    (refused : (host.spawn samplingTask session.state).1 = .error cause) :
    (session.start host).1 = .error .failed ∧
      (session.start host).2.monitor = ⟨false, false, session.monitor.task, .zero⟩ := by
  rcases answer : host.spawn samplingTask session.state with ⟨result, state⟩
  rw [answer] at refused
  cases refused
  simp only [start, off, answer, Bool.false_eq_true, if_false, and_self]

/-- A start fails exactly if the monitor is off and the host refuses the task, and always in the
same way. -/
theorem start_eq_error_iff (host : Host v) (session : Session v) (fault : Fault) :
    (session.start host).1 = .error fault ↔
      session.monitor.running = false ∧
        (∃ cause, (host.spawn samplingTask session.state).1 = .error cause) ∧
        fault = .failed := by
  cases off : session.monitor.running with
  | true =>
    rw [start_of_running host session off]
    exact ⟨nofun, nofun⟩
  | false =>
    cases answer : (host.spawn samplingTask session.state).1 with
    | ok handle =>
      rw [(start_of_accepted host session handle off answer).1]
      exact ⟨nofun, nofun⟩
    | error cause =>
      rw [(start_of_refused host session cause off answer).1]
      exact ⟨fun same => ⟨rfl, ⟨cause, rfl⟩, (Except.error.inj same).symm⟩,
        fun ⟨_, _, same⟩ => by rw [same]⟩

theorem start_sampler (host : Host v) (session : Session v)
    (off : session.monitor.running = false) :
    (session.start host).2.monitor.sampler = .zero := by
  cases answer : (host.spawn samplingTask session.state).1 with
  | ok handle => rw [(start_of_accepted host session handle off answer).2]
  | error cause => rw [(start_of_refused host session cause off answer).2]

end Session

namespace Machine

/-- Whoever has asked for a start is told how it went, by an outcome or by a status word. -/
theorem control_of_starting (host : Host v) (machine : Machine v)
    (asked : machine.switching = some true) :
    (machine.control = .call .start ∧
      (machine.step host).control = .deliver (.switched (machine.session.start host).1)) ∨
    ∃ invocation, machine.control = .call (.command invocation) ∧
      (machine.step host).control = .deliver (.replied
        ⟨statusWord ((machine.session.start host).1.map fun _ => 0), invocation.argument⟩) := by
  obtain ⟨session, stack, control⟩ := machine
  obtain ⟨call, called⟩ := call_of_switching asked
  cases called
  cases call with
  | start => exact .inl ⟨rfl, rfl⟩
  | command invocation =>
    simp only [switching] at asked
    split at asked
    · rename_i judged
      cases asked
      refine .inr ⟨invocation, rfl, ?_⟩
      simp only [step, enter, Session.command, judged]
    · cases asked
  | stop => cases asked
  | sample => cases asked
  | averageLoad => cases asked
  | runTask => cases asked

end Machine

/-! ### A start that fails -/

/-- A start that fails loses the load. It always fails in the same way, whatever the cause was, and
whoever asked is told so. The two flags and the handle stay as they were; the sampler is at zero, so
the monitor is as before only if the sampler was at zero already. The load that was published last
can be read no more: a reader gets no load, at either place, which is what it got before only if
there was none. -/
theorem failed_start_clears (host : Host v) (machine : Machine v) (fault : Fault)
    (reachable : Reachable host machine) (asked : machine.switching = some true)
    (failed : (machine.session.start host).1 = .error fault) :
    ((machine.control = .call .start ∧
        (machine.step host).control = .deliver (.switched (.error .failed))) ∨
      ∃ invocation, machine.control = .call (.command invocation) ∧
        (machine.step host).control =
          .deliver (.replied ⟨Fault.failed.code, invocation.argument⟩)) ∧
    (machine.step host).session.monitor = { machine.session.monitor with sampler := .zero } ∧
    ((machine.step host).session.monitor = machine.session.monitor ↔
      machine.session.monitor.sampler = .zero) ∧
    ∀ subsystem slot, HasLoad subsystem →
      ((machine.step host).session.command host (loadRequest subsystem slot)).1 = loadReply 0 ∧
      (((machine.step host).session.command host (loadRequest subsystem slot)).1 =
          (machine.session.command host (loadRequest subsystem slot)).1 ↔
        machine.session.monitor.averageLoad = 0) := by
  obtain ⟨off, ⟨cause, refused⟩, rfl⟩ := (Session.start_eq_error_iff host _ fault).mp failed
  have cleared : (machine.step host).session.monitor =
      { machine.session.monitor with sampler := .zero } := by
    obtain ⟨life, lives, -⟩ := reachable.follows
    have unwanted : machine.session.monitor.shouldRun = false := by
      rw [← lives.running_eq_shouldRun, off]
    rw [Machine.session_of_switching host machine true asked]
    show (machine.session.start host).2.monitor =
      ⟨machine.session.monitor.running, machine.session.monitor.shouldRun,
        machine.session.monitor.task, .zero⟩
    rw [(Session.start_of_refused host machine.session cause off refused).2, off, unwanted]
  refine ⟨?_, cleared, ?_, fun subsystem slot hasLoad => ?_⟩
  · have told := Machine.control_of_starting host machine asked
    rw [failed] at told
    exact told
  · rw [cleared]
    constructor
    · intro same
      rw [← same]
    · intro zero
      rw [← zero]
  · rw [command_loadRequest host _ subsystem slot hasLoad,
      command_loadRequest host _ subsystem slot hasLoad, cleared]
    exact ⟨rfl, fun same => (loadReply_inj.mp same).symm, fun none => loadReply_inj.mpr none.symm⟩

namespace Rehearsal

/-- The first steps of an operation that is carried out after the one before it has ended. -/
def goOn (operation : Operation) (steps : Nat) (machine : Machine vocabulary) :
    Machine vocabulary :=
  Machine.run host steps ⟨machine.session, [], .perform operation⟩

theorem reachable_goOn {machine : Machine vocabulary} {outcome : Outcome Value}
    (reachable : Reachable host machine) (ended : machine.progress = .finished outcome)
    (operation : Operation) (steps : Nat) : Reachable host (goOn operation steps machine) := by
  obtain ⟨session, stack, control⟩ := machine
  cases control with
  | deliver given =>
    cases stack with
    | nil => exact (reachable.move (.next given session.state _ rfl rfl)).run steps
    | cons frame rest => cases ended
  | _ => cases ended

/-- A load is published, and then the host refuses the task of the start that is about to be
carried out. -/
def refusing : Machine vocabulary :=
  goOn (.call .start) 1 (goOn (.setMode .failing) 1 (goOn (.call .sample) 3
    (goOn (.setCounters ⟨400, 100⟩) 1 ⟨fresh, [], .deliver .done⟩)))

theorem reachable_refusing : Reachable host refusing :=
  reachable_goOn (reachable_goOn (reachable_goOn (reachable_goOn
    (.fresh host .fresh (.deliver .done)) rfl _ 1) rfl _ 3) rfl _ 1) rfl _ 1

end Rehearsal

/-- A failed start does not leave everything as it was: in the rehearsal with a host that refuses
the task, the load published before is lost. -/
theorem not_failed_start_atomic :
    ¬ ∀ (machine : Machine Rehearsal.vocabulary) (fault : Fault),
        Reachable Rehearsal.host machine → machine.switching = some true →
        (machine.session.start Rehearsal.host).1 = .error fault →
        (machine.step Rehearsal.host).session.monitor = machine.session.monitor := by
  intro atomic
  have same := atomic Rehearsal.refusing .failed Rehearsal.reachable_refusing rfl rfl
  exact absurd same (by decide)

/-- The load of 75 percent that was published before can be read no more. -/
theorem failed_start_clears_refusing :
    Rehearsal.refusing.session.monitor.averageLoad = 0xC00C00 ∧
      (Rehearsal.refusing.step Rehearsal.host).session.monitor.sampler = .zero ∧
      ((Rehearsal.refusing.step Rehearsal.host).session.command Rehearsal.host
        (loadRequest processorSubsystem 7)).1 = loadReply 0 := by
  obtain ⟨-, cleared, -, read⟩ := failed_start_clears Rehearsal.host Rehearsal.refusing .failed
    Rehearsal.reachable_refusing rfl rfl
  exact ⟨by decide, by rw [cleared], (read processorSubsystem 7 (.inr rfl)).1⟩

/-! ### Until the first load -/

namespace Machine

/-- A step that publishes no load leaves the sampler as it is, or puts it back to zero by starting
a monitor that is off. -/
theorem sampler_of_unpublished {host : Host v} {machine next : Machine v}
    (taken : Transition host machine next)
    (unpublished : ∀ byTask reading below, ¬ machine.Publishes byTask reading below) :
    next.session.monitor.sampler = machine.session.monitor.sampler ∨
      (machine.switching = some true ∧ machine.session.monitor.running = false ∧
        next.session.monitor.sampler = .zero) := by
  cases taken with
  | switch on outcome asked =>
    cases on with
    | true =>
      cases off : machine.session.monitor.running with
      | true =>
        left
        show (machine.session.start host).2.monitor.sampler = _
        rw [Session.start_of_running host machine.session off]
      | false => exact .inr ⟨asked, rfl, Session.start_sampler host machine.session off⟩
    | false =>
      left
      show (machine.session.stop host).monitor.sampler = _
      unfold Session.stop
      split
      · split <;> rfl
      · rfl
  | publish reading rest outcome given top wanted =>
    exact absurd ⟨⟨outcome, given, top⟩, fun _ => wanted⟩ (unpublished true reading rest)
  | conclude reading rest outcome given top =>
    exact absurd ⟨⟨outcome, given, top⟩, nofun⟩ (unpublished false reading rest)
  | _ => exact .inl rfl

/-- Moves on which no load is published. -/
def Unpublished (host : Host v) : Machine v → Machine v → Prop :=
  Relation.ReflTransGen fun before after =>
    Move host before after ∧ ∀ byTask reading below, ¬ before.Publishes byTask reading below

/-- A sampler at zero stays there until a load is published, through any number of starts. -/
theorem Unpublished.sampler_eq_zero {host : Host v} {machine later : Machine v}
    (unpublished : Unpublished host machine later)
    (zero : machine.session.monitor.sampler = .zero) :
    later.session.monitor.sampler = .zero := by
  induction unpublished with
  | refl => exact zero
  | tail _ taken inductionHypothesis =>
    obtain ⟨move, silent⟩ := taken
    cases move with
    | step =>
      rcases sampler_of_unpublished (transition_step host _) silent with same | ⟨-, -, cleared⟩
      · rw [same]
        exact inductionHypothesis
      · exact cleared
    | next => exact inductionHypothesis

/-- A start that succeeds, and the first load that is published after it: the first machine is about
to do the one, the second the other. -/
structure FirstLoad (host : Host v) (starting later : Machine v) (byTask : Bool)
    (reading : RunTime) : Prop where
  off : starting.session.monitor.running = false
  asked : starting.switching = some true
  accepted : (starting.session.start host).1 = .ok ()
  unpublished : (starting.step host).Unpublished host later
  publishes : ∃ below, later.Publishes byTask reading below

/-- The counters at the moment at which a start is done. -/
def begun (host : Host v) (starting : Machine v) : RunTime :=
  host.runTime (starting.step host).session.state

theorem FirstLoad.sampler_eq_zero {host : Host v} {starting later : Machine v} {byTask : Bool}
    {reading : RunTime} (first : FirstLoad host starting later byTask reading) :
    later.session.monitor.sampler = .zero := by
  refine first.unpublished.sampler_eq_zero ?_
  rw [session_of_switching host starting true first.asked]
  exact Session.start_sampler host starting.session first.off

end Machine

/-- The first window after a start begins where the counters are zero, and not where they are. What
it reports is what the counters show: how far they have come since the start, and on top of it where
they stood at the start. So it reports the session alone exactly if both counters stood at zero, and
two sessions in which the counters come equally far get the same report exactly if they begin at the
same counters. -/
theorem first_window_from_zero (host : Host v) (starting later : Machine v) (byTask : Bool)
    (reading : RunTime) (first : Machine.FirstLoad host starting later byTask reading) :
    (later.step host).session.monitor.sampler = (Sampler.zero.update reading).2 ∧
    (∃ entries, (later.step host).session.journal =
      entries ++ .stored byTask (Sampler.zero.window reading) :: later.session.journal) ∧
    (Sampler.zero.window reading = none ↔ reading.total = 0) ∧
    ∀ sample, Sampler.zero.window reading = some sample →
      sample.totalElapsed =
        (starting.begun host).total + (reading.since (starting.begun host)).total ∧
      sample.idleElapsed =
        (starting.begun host).idle + (reading.since (starting.begun host)).idle ∧
      ((Sampler.begunAt (starting.begun host)).window reading = some sample ↔
        starting.begun host = ⟨0, 0⟩) ∧
      ∀ otherStarting otherLater otherByTask otherReading,
        Machine.FirstLoad host otherStarting otherLater otherByTask otherReading →
        otherReading.since (otherStarting.begun host) = reading.since (starting.begun host) →
        (Sampler.zero.window otherReading = some sample ↔
          otherStarting.begun host = starting.begun host) := by
  obtain ⟨below, publishes⟩ := first.publishes
  obtain ⟨sampler, entries, journal⟩ :=
    Machine.step_of_publishes host later byTask reading below publishes
  rw [first.sampler_eq_zero] at sampler journal
  refine ⟨sampler, ⟨entries, journal⟩, Sampler.window_eq_none_iff _ _, fun sample reported => ?_⟩
  rw [← Sampler.begunAt_zero] at reported ⊢
  have elapsed := Sampler.elapsed_of_window reported
  obtain ⟨total, idle⟩ : sample.totalElapsed = reading.total - 0 ∧
      sample.idleElapsed = reading.idle - 0 := RunTime.mk.inj elapsed
  refine ⟨?_, ?_, ?_, fun otherStarting otherLater otherByTask otherReading _ same => ?_⟩
  · rw [total, UInt32.sub_zero]
    exact (add_sub_cancel (starting.begun host).total reading.total).symm
  · rw [idle, UInt32.sub_zero]
    exact (add_sub_cancel (starting.begun host).idle reading.idle).symm
  · rw [Sampler.window_eq_some_iff reported, RunTime.since_inj]
  · rw [Sampler.window_eq_some_iff reported, RunTime.since_left_inj]
    constructor
    · intro sameReading
      rw [sameReading] at same
      exact RunTime.since_inj.mp same
    · intro sameBegun
      rw [sameBegun] at same
      exact RunTime.since_left_inj.mp same

/-! ### A second session -/

namespace Rehearsal

/-- A second session is about to begin; the first one has ended when the counters stood where they
are. -/
def restartingAt (counters : RunTime) : Machine vocabulary :=
  goOn (.call .start) 1 (goOn (.call .stop) 2 (goOn (.call .sample) 3
    (goOn (.setCounters counters) 1 (goOn (.call .start) 2 ⟨fresh, [], .deliver .done⟩))))

theorem reachable_restartingAt (counters : RunTime) : Reachable host (restartingAt counters) :=
  reachable_goOn (reachable_goOn (reachable_goOn (reachable_goOn (reachable_goOn
    (.fresh host .fresh (.deliver .done)) rfl _ 2) rfl _ 1) rfl _ 3) rfl _ 2) rfl _ 1

/-- In the second session the counters have come on by a hundred, and by a quarter of that, and a
sample is about to be published. -/
def measuringFrom (counters : RunTime) : Machine vocabulary :=
  goOn (.call .sample) 2 (goOn (.advance ⟨100, 25⟩) 1 ((restartingAt counters).step host))

theorem firstLoad_measuringFrom (counters : RunTime) :
    Machine.FirstLoad host (restartingAt counters) (measuringFrom counters) false
      ⟨counters.total + 100, counters.idle + 25⟩ where
  off := rfl
  asked := rfl
  accepted := rfl
  unpublished := by
    have silent : ∀ machine : Machine vocabulary, machine.stack = [] →
        ∀ byTask reading below, ¬ machine.Publishes byTask reading below := by
      rintro machine empty byTask reading below ⟨⟨_, -, top⟩, -⟩
      rw [empty] at top
      cases top
    let started := (restartingAt counters).step host
    let advancing : Machine vocabulary := ⟨started.session, [], .perform (.advance ⟨100, 25⟩)⟩
    let advanced := advancing.step host
    let sampling : Machine vocabulary := ⟨advanced.session, [], .perform (.call .sample)⟩
    have first : started.Unpublished host advancing := .single ⟨.next _ _ _ rfl rfl, silent _ rfl⟩
    have second : started.Unpublished host sampling :=
      (first.tail ⟨.step, silent _ rfl⟩).tail ⟨.next _ _ _ rfl rfl, silent _ rfl⟩
    exact (second.tail ⟨.step, silent _ rfl⟩).tail ⟨.step, silent _ rfl⟩
  publishes := ⟨[], ⟨.done, rfl, rfl⟩, nofun⟩

end Rehearsal

/-- The first window of a session does not measure that session only. In the rehearsal with two
sessions it reports the run time of the first session too, and two runs that differ only in the
counters at the second start publish different loads. -/
theorem not_first_window_of_session :
    (¬ ∀ (starting later : Machine Rehearsal.vocabulary) (byTask : Bool) (reading : RunTime)
        (entries : List (Event Rehearsal.vocabulary)) (sample : LoadSample),
        Reachable Rehearsal.host starting → (∀ frame ∈ starting.stack, frame.ofTask = false) →
        Machine.FirstLoad Rehearsal.host starting later byTask reading →
        (later.step Rehearsal.host).session.journal =
          entries ++ .stored byTask (some sample) :: later.session.journal →
        (⟨sample.totalElapsed, sample.idleElapsed⟩ : RunTime) =
          reading.since (starting.begun Rehearsal.host)) ∧
    ¬ ∀ (starting later otherStarting otherLater : Machine Rehearsal.vocabulary)
        (byTask otherByTask : Bool) (reading otherReading : RunTime),
        Reachable Rehearsal.host starting → (∀ frame ∈ starting.stack, frame.ofTask = false) →
        Reachable Rehearsal.host otherStarting →
        (∀ frame ∈ otherStarting.stack, frame.ofTask = false) →
        Machine.FirstLoad Rehearsal.host starting later byTask reading →
        Machine.FirstLoad Rehearsal.host otherStarting otherLater otherByTask otherReading →
        otherReading.since (otherStarting.begun Rehearsal.host) =
          reading.since (starting.begun Rehearsal.host) →
        (otherLater.step Rehearsal.host).session.monitor.averageLoad =
          (later.step Rehearsal.host).session.monitor.averageLoad := by
  have reachable := Rehearsal.reachable_restartingAt
  have first := Rehearsal.firstLoad_measuringFrom
  constructor
  · intro isolated
    have same := isolated _ _ _ _ [] ⟨1100, 1025, 93, 7⟩ (reachable ⟨1000, 1000⟩) nofun
      (first ⟨1000, 1000⟩) rfl
    exact absurd same (by decide)
  · intro isolated
    have same := isolated _ _ _ _ _ _ _ _ (reachable ⟨1000, 1000⟩) nofun (reachable ⟨0, 0⟩) nofun
      (first ⟨1000, 1000⟩) (first ⟨0, 0⟩) rfl
    exact absurd same (by decide)

/-- The second session has lasted a hundred ticks, and its first window reports eleven hundred. -/
theorem first_window_from_zero_second_session :
    ∃ sample, Sampler.zero.window ⟨1100, 1025⟩ = some sample ∧
      sample.totalElapsed = 1000 + 100 ∧ sample.idleElapsed = 1000 + 25 ∧
      (Sampler.begunAt ⟨1000, 1000⟩).window ⟨1100, 1025⟩ ≠ some sample ∧
      Sampler.zero.window ⟨100, 25⟩ ≠ some sample := by
  obtain ⟨-, -, -, reports⟩ := first_window_from_zero Rehearsal.host
    (Rehearsal.restartingAt ⟨1000, 1000⟩) (Rehearsal.measuringFrom ⟨1000, 1000⟩) false ⟨1100, 1025⟩
    (Rehearsal.firstLoad_measuringFrom ⟨1000, 1000⟩)
  obtain ⟨total, idle, alone, other⟩ := reports ⟨1100, 1025, 93, 7⟩ (by decide)
  have fresh := other _ _ _ _ (Rehearsal.firstLoad_measuringFrom ⟨0, 0⟩) rfl
  refine ⟨_, by decide, total, idle, fun same => ?_, fun same => ?_⟩
  · exact absurd (alone.mp same) (by decide)
  · exact absurd (fresh.mp same) (by decide)

end BoardSupport.Monitor
