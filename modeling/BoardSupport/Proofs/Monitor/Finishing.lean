/-
This file shows that every operation of a rehearsal comes to its end. The sampling
task is a loop without a bound of its own, and operations can be nested in one
another, start the monitor again, and run further tasks; but all of this is laid out
in the operation and in what the scheduler has kept, and is used up once. What a
configuration can still do is measured by its budget, from which every step takes
something. A task that is wanted although its script is empty costs a little too,
since the scheduler then stops the monitor: this is what the fee is set aside for.
-/

import BoardSupport.Proofs.Monitor.Lifecycle
import BoardSupport.Proofs.Monitor.Running

namespace BoardSupport.Monitor

namespace Rehearsal

/-! ### Budgets -/

/-- What is set aside while a task is wanted, for the moment when its script is used up. -/
def fee (wanted : Bool) : Nat := if wanted then 3 else 0

theorem fee_le (wanted : Bool) : fee wanted ≤ 3 := by cases wanted <;> decide

def callBudget : Call → Nat
  | .start | .command _ => 4
  | .sample => 2
  | .stop | .averageLoad | .runTask => 1

/-- A stop needs no fee, since nothing is wanted after it. -/
def controlBudget (wanted : Bool) : Control vocabulary → Nat
  | .call .stop => callBudget .stop
  | .call call => callBudget call + fee wanted
  | .perform operation => 12 * operation.weight - 1 + fee wanted
  | .deliver _ | .abandon => fee wanted

def frameBudget : Monitor.Frame vocabulary → Nat
  | .delaying => 2
  | .sampling _ _ => 1
  | .host (.nested rest) => 12 * operationsWeight rest + 1
  | .host (.running _) => 1

def stackBudget : List (Monitor.Frame vocabulary) → Nat
  | [] => 0
  | frame :: rest => frameBudget frame + stackBudget rest

/-- What the scheduler has kept for later. -/
def storeBudget (scheduler : Scheduler) : Nat :=
  12 * (operationsWeight scheduler.onRead + pausesWeight scheduler.script)

/-- A bound on the steps that a configuration can still make. -/
def budget (machine : Machine vocabulary) : Nat :=
  controlBudget machine.session.monitor.shouldRun machine.control + stackBudget machine.stack +
    storeBudget machine.session.state

/-- The budget of a configuration apart from what is about to be done. -/
def reserve (machine : Machine vocabulary) : Nat :=
  fee machine.session.monitor.shouldRun + stackBudget machine.stack +
    storeBudget machine.session.state

theorem stackBudget_append (first second : List (Monitor.Frame vocabulary)) :
    stackBudget (first ++ second) = stackBudget first + stackBudget second := by
  induction first with
  | nil => exact (Nat.zero_add _).symm
  | cons frame rest inductionHypothesis =>
    rw [List.cons_append, stackBudget, stackBudget, inductionHypothesis, Nat.add_assoc]

theorem operation_weight_pos (operation : Operation) : 1 ≤ operation.weight := by
  cases operation with
  | onRead operations | runPending pauses => exact Nat.le_add_right 1 _
  | _ => exact Nat.le_refl 1

/-! ### What the plans of the scheduler cost -/

/-- A plan that does not give up and stays within a limit. -/
structure Affords (wanted : Bool) (limit : Nat) (plan : Plan vocabulary) : Prop where
  proceeds : plan.next ≠ .abandon
  within : controlBudget wanted plan.next + stackBudget (plan.frames.map .host) +
    storeBudget plan.state ≤ limit

variable (wanted : Bool) (scheduler : Scheduler)

theorem affords_carryOut (operations : List Operation) :
    Affords wanted (fee wanted + 12 * operationsWeight operations + storeBudget scheduler)
      (scheduler.carryOut operations) := by
  cases operations with
  | nil => exact ⟨nofun, Nat.le_refl _⟩
  | cons operation rest =>
    have positive := operation_weight_pos operation
    refine ⟨nofun, ?_⟩
    show 12 * operation.weight - 1 + fee wanted + (12 * operationsWeight rest + 1) +
      storeBudget scheduler ≤
        fee wanted + 12 * (operation.weight + operationsWeight rest) + storeBudget scheduler
    omega

theorem affords_duringRead :
    Affords wanted (fee wanted + storeBudget scheduler) scheduler.duringRead := by
  obtain ⟨proceeds, within⟩ :=
    affords_carryOut wanted { scheduler with onRead := [] } scheduler.onRead
  refine ⟨proceeds, Nat.le_trans within ?_⟩
  simp only [storeBudget, operationsWeight]
  omega

/-- A pause of a task that is wanted lives on an entry of the script, or on the fee. -/
theorem affords_duringDelay (milliseconds : UInt32) :
    Affords true (1 + storeBudget scheduler) (scheduler.duringDelay milliseconds) := by
  obtain ⟨counters, lastHandle, mode, keep, pending, script, onRead⟩ := scheduler
  cases script with
  | nil => exact ⟨nofun, Nat.le_refl _⟩
  | cons pause script =>
    obtain ⟨advance, prepared, during⟩ := pause
    have paid (moved : Scheduler)
        (store : storeBudget moved = 12 * (operationsWeight prepared + pausesWeight script)) :
        Affords true
          (1 + storeBudget ⟨counters, lastHandle, mode, keep, pending,
            .mk advance prepared during :: script, onRead⟩)
          (moved.carryOut during) := by
      obtain ⟨proceeds, within⟩ := affords_carryOut true moved during
      refine ⟨proceeds, Nat.le_trans within ?_⟩
      rw [store]
      simp only [storeBudget, pausesWeight, Pause.weight, fee, if_true]
      omega
    cases advance with
    | none => exact paid _ rfl
    | some step => exact paid _ rfl

/-- An operation pays for what it leaves to be done, and has something left over. -/
theorem affords_perform (operation : Operation) :
    Affords wanted (12 * operation.weight - 2 + fee wanted + storeBudget scheduler)
      (scheduler.perform operation) := by
  cases operation with
  | call call =>
    refine ⟨nofun, ?_⟩
    have cheap : controlBudget wanted (.call call) ≤ 4 + fee wanted := by
      cases call <;> simp only [controlBudget, callBudget] <;> omega
    show controlBudget wanted (.call call) + 0 + storeBudget scheduler ≤
      12 * 1 - 2 + fee wanted + storeBudget scheduler
    omega
  | setCounters counters | advance step | setMode mode | setKeep keep =>
    refine ⟨nofun, ?_⟩
    show fee wanted + 0 + storeBudget scheduler ≤ 12 * 1 - 2 + fee wanted + storeBudget scheduler
    omega
  | onRead operations =>
    refine ⟨nofun, ?_⟩
    show fee wanted + 0 + 12 * (operationsWeight operations + pausesWeight scheduler.script) ≤
      12 * (1 + operationsWeight operations) - 2 + fee wanted +
        12 * (operationsWeight scheduler.onRead + pausesWeight scheduler.script)
    omega
  | runPending script =>
    obtain ⟨counters, lastHandle, mode, keep, pending, previous, onRead⟩ := scheduler
    cases pending with
    | nil =>
      refine ⟨nofun, ?_⟩
      show fee wanted + 0 + 12 * (operationsWeight onRead + pausesWeight previous) ≤
        12 * (1 + pausesWeight script) - 2 + fee wanted +
          12 * (operationsWeight onRead + pausesWeight previous)
      omega
    | cons handle others =>
      refine ⟨nofun, ?_⟩
      show 1 + fee wanted + 1 + 12 * (operationsWeight onRead + pausesWeight script) ≤
        12 * (1 + pausesWeight script) - 2 + fee wanted +
          12 * (operationsWeight onRead + pausesWeight previous)
      omega

theorem affords_resume (frame : Frame) (outcome : Outcome Value) :
    Affords wanted (fee wanted + frameBudget (.host frame) - 1 + storeBudget scheduler)
      (scheduler.resume frame outcome) := by
  cases frame with
  | nested rest =>
    obtain ⟨proceeds, within⟩ := affords_carryOut wanted scheduler rest
    exact ⟨proceeds, within⟩
  | running handle => exact ⟨nofun, Nat.le_add_right _ _⟩

/-! ### What the pieces of a step cost -/

/-- A configuration that has not given up and stays within a limit. -/
structure Stays (limit : Nat) (machine : Machine vocabulary) : Prop where
  proceeds : machine.control ≠ .abandon
  within : budget machine ≤ limit

theorem Stays.mono {limit more : Nat} {machine : Machine vocabulary}
    (stays : Stays limit machine) (enough : limit ≤ more) : Stays more machine :=
  ⟨stays.proceeds, Nat.le_trans stays.within enough⟩

variable (machine : Machine vocabulary)

theorem stays_follow {plan : Plan vocabulary} {limit : Nat}
    (affords : Affords machine.session.monitor.shouldRun limit plan) :
    Stays (limit + stackBudget machine.stack) (machine.follow plan) := by
  obtain ⟨proceeds, within⟩ := affords
  refine ⟨proceeds, ?_⟩
  show controlBudget machine.session.monitor.shouldRun plan.next +
    stackBudget (plan.frames.map .host ++ machine.stack) + storeBudget plan.state ≤ _
  rw [stackBudget_append]
  omega

theorem stays_deliver (outcome : Outcome Value) :
    Stays (reserve machine) (machine.deliver outcome) := ⟨nofun, Nat.le_refl _⟩

theorem stays_beginSample (byTask : Bool) :
    Stays (reserve machine + 1) (machine.beginSample host byTask) := by
  let session := (machine.session.record .readIdle).record .readTotal
  let reading := host.runTime session.state
  have read := affords_duringRead machine.session.monitor.shouldRun machine.session.state
  refine (stays_follow { machine with session, stack := .sampling byTask reading :: machine.stack }
    read).mono ?_
  rw [stackBudget, reserve, frameBudget]
  omega

/-- The task pays for its pause with the fee. -/
theorem stays_loopTask : Stays (reserve machine) (machine.loopTask host) := by
  cases wanted : machine.session.monitor.shouldRun with
  | false =>
    rw [Machine.loopTask_of_unwanted host machine wanted]
    exact stays_deliver machine .done
  | true =>
    rw [Machine.loopTask_of_wanted host machine wanted]
    let session := machine.session.record (.delayed Settings.sampleDelay)
    have paused : Affords machine.session.monitor.shouldRun (1 + storeBudget machine.session.state)
        (machine.session.state.duringDelay Settings.sampleDelay) := by
      rw [wanted]
      exact affords_duringDelay machine.session.state Settings.sampleDelay
    refine (stays_follow
      { machine with session, stack := .delaying :: machine.stack } paused).mono ?_
    rw [stackBudget, reserve, frameBudget, wanted, fee, if_pos rfl]
    omega

theorem stays_wakeTask : Stays (reserve machine + 1) (machine.wakeTask host) := by
  cases wanted : machine.session.monitor.shouldRun with
  | false =>
    rw [Machine.wakeTask_of_unwanted host machine wanted]
    exact (stays_deliver machine .done).mono (Nat.le_succ _)
  | true =>
    rw [Machine.wakeTask_of_wanted host machine wanted]
    exact stays_beginSample machine true

theorem stays_endSample (byTask : Bool) (reading : RunTime) :
    Stays (reserve machine) (machine.endSample host byTask reading) := by
  have published : reserve (machine.store byTask reading).2 = reserve machine := rfl
  cases byTask with
  | false => exact stays_deliver (machine.store false reading).2 _
  | true =>
    cases wanted : machine.session.monitor.shouldRun with
    | false =>
      rw [Machine.endSample_of_unwanted host reading machine wanted]
      exact stays_deliver machine .done
    | true =>
      rw [Machine.endSample_of_wanted host reading machine wanted, ← published,
        ← Machine.loopTask_of_wanted host (machine.store true reading).2 wanted]
      exact stays_loopTask (machine.store true reading).2

/-! ### Switching -/

/-- A start leaves alone what the scheduler has kept for later. -/
theorem storeBudget_start (session : Session vocabulary) :
    storeBudget (session.start host).2.state = storeBudget session.state := by
  obtain ⟨monitor, ⟨counters, lastHandle, mode, keep, pending, script, onRead⟩, journal⟩ := session
  rw [Session.start]
  split
  · rfl
  · cases mode <;> rfl

theorem storeBudget_stop (session : Session vocabulary) :
    storeBudget (session.stop host).state = storeBudget session.state := by
  have kept (handle : UInt32) (scheduler : Scheduler) :
      storeBudget (scheduler.reap handle) = storeBudget scheduler := by
    rw [Scheduler.reap]
    split <;> rfl
  rw [Session.stop]
  split
  · split
    · exact kept _ session.state
    · rfl
  · rfl

theorem storeBudget_command (session : Session vocabulary) (invocation : Device.Invocation) :
    storeBudget (session.command host invocation).2.state = storeBudget session.state := by
  rw [Session.command]
  split
  · rfl
  · exact storeBudget_start session
  · exact storeBudget_stop session

theorem shouldRun_stop {session : Session vocabulary} {life : Life UInt32}
    (lives : session.monitor.Lives life) : (session.stop host).monitor.shouldRun = false := by
  cases life with
  | off => rw [Session.stop_of_not_running host session lives.1, lives.2.1]
  | on handle =>
    obtain ⟨-, -, -, stopped, -⟩ := Session.switch_off_of_on host session handle lives
    exact stopped

/-- A call pays for what it begins, and has something left over. -/
theorem stays_enter (call : Call) {life : Life UInt32}
    (lives : machine.session.monitor.Lives life) :
    Stays (controlBudget machine.session.monitor.shouldRun (.call call) +
      stackBudget machine.stack + storeBudget machine.session.state - 1)
      (machine.enter host call) := by
  cases call with
  | start =>
    refine ⟨nofun, ?_⟩
    show fee (machine.session.start host).2.monitor.shouldRun + stackBudget machine.stack +
      storeBudget (machine.session.start host).2.state ≤
        4 + fee machine.session.monitor.shouldRun + _ + _ - 1
    have small := fee_le (machine.session.start host).2.monitor.shouldRun
    rw [storeBudget_start]
    omega
  | stop =>
    refine ⟨nofun, ?_⟩
    show fee (machine.session.stop host).monitor.shouldRun + stackBudget machine.stack +
      storeBudget (machine.session.stop host).state ≤ 1 + _ + _ - 1
    rw [shouldRun_stop lives, storeBudget_stop, fee, if_neg Bool.false_ne_true]
    omega
  | sample =>
    refine (stays_beginSample machine false).mono ?_
    show reserve machine + 1 ≤ 2 + fee machine.session.monitor.shouldRun + _ + _ - 1
    rw [reserve]
    omega
  | averageLoad =>
    refine (stays_deliver machine _).mono ?_
    show reserve machine ≤ 1 + fee machine.session.monitor.shouldRun + _ + _ - 1
    rw [reserve]
    omega
  | runTask =>
    refine (stays_loopTask machine).mono ?_
    show reserve machine ≤ 1 + fee machine.session.monitor.shouldRun + _ + _ - 1
    rw [reserve]
    omega
  | command invocation =>
    refine ⟨nofun, ?_⟩
    show fee (machine.session.command host invocation).2.monitor.shouldRun +
      stackBudget machine.stack +
      storeBudget (machine.session.command host invocation).2.state ≤
        4 + fee machine.session.monitor.shouldRun + _ + _ - 1
    have small := fee_le (machine.session.command host invocation).2.monitor.shouldRun
    rw [storeBudget_command]
    omega

theorem controlBudget_call_pos (call : Call) : 1 ≤ controlBudget wanted (.call call) := by
  cases call <;> simp only [controlBudget, callBudget] <;> omega

theorem frameBudget_pos (frame : Monitor.Frame vocabulary) : 1 ≤ frameBudget frame := by
  cases frame with
  | delaying => exact Nat.le_succ 1
  | sampling byTask reading => exact Nat.le_refl 1
  | host frame =>
    cases frame with
    | nested rest => exact Nat.le_add_left 1 _
    | running handle => exact Nat.le_refl 1

/-- A frame that gets an outcome pays for what it does with it. -/
theorem stays_resume (outcome : Outcome Value) (frame : Monitor.Frame vocabulary) :
    Stays (reserve machine + frameBudget frame - 1) (machine.resume host outcome frame) := by
  cases frame with
  | delaying => exact stays_wakeTask machine
  | sampling byTask reading => exact stays_endSample machine byTask reading
  | host frame =>
    have positive := frameBudget_pos (.host frame)
    refine (stays_follow machine (affords_resume machine.session.monitor.shouldRun
      machine.session.state frame outcome)).mono ?_
    rw [reserve]
    omega

/-! ### Every step costs something -/

theorem stays_step {life : Life UInt32} (lives : machine.session.monitor.Lives life)
    (proceeds : machine.control ≠ .abandon) (underWay : machine.progress = .underWay) :
    ∃ limit, limit < budget machine ∧ Stays limit (machine.step host) := by
  obtain ⟨session, stack, control⟩ := machine
  cases control with
  | call call =>
    have positive := controlBudget_call_pos session.monitor.shouldRun call
    refine ⟨_, ?_, stays_enter ⟨session, stack, .call call⟩ call lives⟩
    show _ - 1 < controlBudget session.monitor.shouldRun (.call call) + stackBudget stack +
      storeBudget session.state
    dsimp only
    omega
  | perform operation =>
    have positive := operation_weight_pos operation
    refine ⟨_, ?_, stays_follow ⟨session, stack, .perform operation⟩
      (affords_perform session.monitor.shouldRun session.state operation)⟩
    show _ < 12 * operation.weight - 1 + fee session.monitor.shouldRun + stackBudget stack +
      storeBudget session.state
    dsimp only
    omega
  | deliver outcome =>
    cases stack with
    | nil => cases underWay
    | cons frame rest =>
      have positive := frameBudget_pos frame
      refine ⟨_, ?_, stays_resume ⟨session, rest, .deliver outcome⟩ outcome frame⟩
      show fee session.monitor.shouldRun + stackBudget rest + storeBudget session.state +
        frameBudget frame - 1 <
          fee session.monitor.shouldRun + (frameBudget frame + stackBudget rest) +
            storeBudget session.state
      omega
  | abandon => exact absurd rfl proceeds

theorem exists_finished_of_ended (proceeds : machine.control ≠ .abandon)
    (ended : machine.progress ≠ .underWay) : ∃ outcome, machine.progress = .finished outcome := by
  obtain ⟨session, stack, control⟩ := machine
  cases control with
  | call call => exact absurd rfl ended
  | perform operation => exact absurd rfl ended
  | deliver outcome =>
    cases stack with
    | nil => exact ⟨outcome, rfl⟩
    | cons frame rest => exact absurd rfl ended
  | abandon => exact absurd rfl proceeds

/-- A run that may make as many steps as its budget says comes to its end. -/
theorem run_finishes (steps : Nat) {life : Life UInt32}
    (lives : machine.session.monitor.Lives life) (stays : Stays steps machine) :
    (∃ outcome, (machine.run host steps).progress = .finished outcome) ∧
      ∃ next, (machine.run host steps).session.monitor.Lives next := by
  induction steps generalizing machine life with
  | zero =>
    have ended : machine.progress ≠ .underWay := by
      intro underWay
      obtain ⟨limit, less, -⟩ := stays_step machine lives stays.proceeds underWay
      exact absurd (Nat.lt_of_lt_of_le less stays.within) (Nat.not_lt_zero limit)
    exact ⟨exists_finished_of_ended machine stays.proceeds ended, life, lives⟩
  | succ steps inductionHypothesis =>
    by_cases underWay : machine.progress = .underWay
    · obtain ⟨limit, less, next⟩ := stays_step machine lives stays.proceeds underWay
      obtain ⟨-, after, -, -, livesNext⟩ := Machine.step_follows host machine life lives
      rw [Machine.run_succ]
      exact inductionHypothesis (machine.step host) livesNext
        (next.mono (Nat.le_of_lt_succ (Nat.lt_of_lt_of_le less stays.within)))
    · rw [Machine.run_of_not_underWay host _ machine underWay]
      exact ⟨exists_finished_of_ended machine stays.proceeds underWay, life, lives⟩

/-- Every operation comes to its end within the steps that it is allowed. -/
theorem operate_finishes (operation : Operation) (session : Session vocabulary)
    {life : Life UInt32} (lives : session.monitor.Lives life) :
    (∃ outcome, (operate operation session).1 = .finished outcome) ∧
      ∃ next, (operate operation session).2.monitor.Lives next := by
  refine run_finishes ⟨{ session with journal := [] }, [], .perform operation⟩
    (stepBound operation session.state) lives ⟨nofun, ?_⟩
  have small := fee_le session.monitor.shouldRun
  show 12 * operation.weight - 1 + fee session.monitor.shouldRun + 0 +
    12 * (operationsWeight session.state.onRead + pausesWeight session.state.script) ≤
      12 * (operation.weight + operationsWeight session.state.onRead +
        pausesWeight session.state.script + 1)
  omega

/-- So does each of any number of operations. -/
theorem operateAll_finishes (operations : List Operation) (session : Session vocabulary)
    {life : Life UInt32} (lives : session.monitor.Lives life) :
    ∀ entry ∈ operateAll session operations, ∃ outcome, entry.1 = .finished outcome := by
  induction operations generalizing session life with
  | nil =>
    rw [operateAll]
    exact List.forall_mem_nil _
  | cons operation rest inductionHypothesis =>
    obtain ⟨finished, next, livesNext⟩ := operate_finishes operation session lives
    rw [operateAll, List.forall_mem_cons]
    exact ⟨finished, inductionHypothesis _ livesNext⟩

end Rehearsal

end BoardSupport.Monitor
