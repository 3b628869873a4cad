/-
This file proves that the board's slot and its load monitor never lose each other.
Both remember which task there is: the slot until someone gives back the handle, the
monitor until it is stopped. On a board on which nobody but the monitor uses the slot
they agree at every moment, and `slot_follows_monitor` draws the conclusions. The
slot is emptied at two places, by a stop and when a task that was run has returned;
the second one never finds anything to remove. The reason is that the body of a task
returns only once it has found the monitor off, and that nothing comes between its
return and the release: above a task that is being run there is always its body, or
the task has just been called, or the monitor is off.
-/

import BoardSupport.Board.Host
import BoardSupport.Proofs.Monitor.Lifecycle

namespace BoardSupport.Board

open Monitor (Control Host Life Machine Outcome Plan Session Transition)

/-! ### A board that has one client -/

/-- Whether an operation leaves the slot to the monitor: it places no job, and gives back no handle
by itself. -/
def Operation.sparesSlot : Operation → Bool
  | .place _ _ _ => false
  | .reap _ => false
  | _ => true

def Spare (operations : List Operation) : Prop :=
  ∀ operation ∈ operations, operation.sparesSlot = true

instance (operations : List Operation) : Decidable (Spare operations) :=
  inferInstanceAs (Decidable (∀ operation ∈ operations, operation.sparesSlot = true))

theorem spare_nil : Spare [] := fun _ member => absurd member List.not_mem_nil

/-- The operation that is about to be carried out. -/
def commanded : Control vocabulary → List Operation
  | .perform operation => [operation]
  | _ => []

/-- The operations that a frame still has to carry out. -/
def frameOperations : Monitor.Frame vocabulary → List Operation
  | .host (.interrupt _ rest) => rest
  | .host (.job _ rest) => rest
  | _ => []

def Hardware.interruptOperations (hardware : Hardware) : List Operation :=
  hardware.interrupts.flatMap Interrupt.operations

/-- How a run goes on if the monitor is the only client of the slot: by a step; by a change of the
hardware anywhere but in the slot, at any time; and by the next operation when none is in
progress. No operation that is laid out uses the slot. -/
inductive SoleMove (machine : Machine vocabulary) : Machine vocabulary → Prop
  | step : SoleMove machine (machine.step host)
  | disturb (hardware : Hardware) (slot : hardware.slot = machine.session.state.slot)
      (spare : Spare hardware.interruptOperations) :
    SoleMove machine { machine with session := { machine.session with state := hardware } }
  | next (outcome : Outcome Value) (control : Control vocabulary)
      (given : machine.control = .deliver outcome) (empty : machine.stack = [])
      (spare : Spare (commanded control)) :
    SoleMove machine { machine with control }

/-- The configurations of all runs in which the monitor is the only client of the slot, which is
empty at first. -/
def SoleClient (machine : Machine vocabulary) : Prop :=
  ∃ hardware control, hardware.slot.holder = none ∧ Spare hardware.interruptOperations ∧
    Spare (commanded control) ∧
    Relation.ReflTransGen SoleMove ⟨.fresh hardware, [], control⟩ machine

/-! ### Where the body of a task is -/

/-- Whether a frame waits for a task that is being run. -/
def runsTask : Monitor.Frame vocabulary → Bool
  | .host (.running _) => true
  | _ => false

/-- What waits for the task with some handle while it is being run. -/
def taskFrame (handle : UInt32) : Monitor.Frame vocabulary := .host (.running handle)

/-- The next outcome goes to a task that is being run. -/
def topRuns : List (Monitor.Frame vocabulary) → Bool
  | [] => false
  | frame :: _ => runsTask frame

/-- The frames leave the slot to the monitor, and whatever stands right above a task that is being
run belongs to the body of a task. -/
def Attended : List (Monitor.Frame vocabulary) → Prop
  | [] => True
  | frame :: below =>
    Spare (frameOperations frame) ∧ (topRuns below = true → frame.ofTask = true) ∧ Attended below

theorem attended_append {stack : List (Monitor.Frame vocabulary)} (frames : List vocabulary.Frame)
    (idle : ∀ frame ∈ frames, Spare (frameOperations (.host frame)) ∧
      runsTask (.host frame) = false)
    (free : topRuns stack ≠ true) (attended : Attended stack) :
    Attended (frames.map .host ++ stack) ∧ topRuns (frames.map .host ++ stack) ≠ true := by
  induction frames with
  | nil => exact ⟨attended, free⟩
  | cons frame rest inductionHypothesis =>
    obtain ⟨⟨spare, unrun⟩, others⟩ := List.forall_mem_cons.mp idle
    obtain ⟨below, restFree⟩ := inductionHypothesis others
    exact ⟨⟨spare, fun runs => absurd runs restFree, below⟩, Bool.eq_false_iff.mp unrun⟩

/-! ### What the plans of the board do to its slot -/

namespace Hardware

/-- A plan of the board leaves the slot as it is, now and later, and runs no task. -/
structure LeavesSlot (hardware : Hardware) (plan : Plan vocabulary) : Prop where
  slot : plan.state.slot = hardware.slot
  interrupts : plan.state.interrupts = hardware.interrupts
  next : Spare (commanded plan.next)
  frames : ∀ frame ∈ plan.frames,
    Spare (frameOperations (.host frame)) ∧ runsTask (.host frame) = false

theorem leavesSlot_of_answer {hardware : Hardware} {plan : Plan vocabulary}
    (slot : plan.state.slot = hardware.slot)
    (interrupts : plan.state.interrupts = hardware.interrupts)
    (next : commanded plan.next = []) (frames : plan.frames = []) :
    hardware.LeavesSlot plan where
  slot := slot
  interrupts := interrupts
  next := by rw [next]; exact spare_nil
  frames := by rw [frames]; exact fun _ member => absurd member List.not_mem_nil

/-- The main loop looks for a task. -/
theorem leavesSlot_mainLoop (hardware : Hardware) :
    hardware.LeavesSlot
      { state := hardware, next := .perform .runTask, frames := [.mainLoop] } where
  slot := rfl
  interrupts := rfl
  next := List.forall_mem_singleton.mpr rfl
  frames := List.forall_mem_singleton.mpr ⟨spare_nil, rfl⟩

/-- The operations of an interrupt or of a job, one after the other. -/
theorem leavesSlot_carryOut (hardware : Hardware) (frame : List Operation → Frame)
    (carries : ∀ rest, frameOperations (.host (frame rest)) = rest)
    (unrun : ∀ rest, runsTask (.host (frame rest)) = false) {operations : List Operation}
    (spare : Spare operations) : hardware.LeavesSlot (hardware.carryOut frame operations) := by
  cases operations with
  | nil => exact leavesSlot_of_answer rfl rfl rfl rfl
  | cons operation rest =>
    obtain ⟨first, others⟩ := List.forall_mem_cons.mp spare
    refine ⟨rfl, rfl, List.forall_mem_singleton.mpr first, List.forall_mem_singleton.mpr ?_⟩
    rw [carries]
    exact ⟨others, unrun rest⟩

theorem LeavesSlot.noted {hardware : Hardware} {plan : Plan vocabulary}
    (leaves : hardware.LeavesSlot plan) (notes : List Note) :
    hardware.LeavesSlot { plan with notes } :=
  ⟨leaves.slot, leaves.interrupts, leaves.next, leaves.frames⟩

theorem LeavesSlot.before {hardware : Hardware} {plan : Plan vocabulary}
    (leaves : hardware.LeavesSlot plan) (frame : Frame) (none : frameOperations (.host frame) = [])
    (unrun : runsTask (.host frame) = false) : hardware.LeavesSlot (before plan frame) where
  slot := leaves.slot
  interrupts := leaves.interrupts
  next := leaves.next
  frames := by
    refine List.forall_mem_append.mpr ⟨leaves.frames, List.forall_mem_singleton.mpr ?_⟩
    rw [none]
    exact ⟨spare_nil, unrun⟩

theorem leavesSlot_sleep {hardware : Hardware} (spare : Spare hardware.interruptOperations) :
    hardware.LeavesSlot hardware.sleep := by
  unfold sleep
  split
  · have due : Spare ((hardware.interrupts.filter (·.wakeUp = hardware.wakeUps + 1)).flatMap
        Interrupt.operations) := by
      intro operation member
      obtain ⟨interrupt, listed, carried⟩ := List.mem_flatMap.mp member
      exact spare operation
        (List.mem_flatMap.mpr ⟨interrupt, (List.mem_filter.mp listed).1, carried⟩)
    have leaves := leavesSlot_carryOut
      { hardware with clock := hardware.clock.tick, wakeUps := hardware.wakeUps + 1 }
      (.interrupt (hardware.wakeUps + 1)) (fun _ => rfl) (fun _ => rfl) due
    exact ⟨leaves.slot, leaves.interrupts, leaves.next, leaves.frames⟩
  · exact leavesSlot_of_answer rfl rfl rfl rfl

theorem leavesSlot_continueDelay (hardware : Hardware) (start span : UInt32)
    (spare : Spare hardware.interruptOperations) :
    hardware.LeavesSlot (hardware.continueDelay start span) := by
  unfold continueDelay
  split
  · exact (leavesSlot_sleep spare).before _ rfl rfl
  · exact leavesSlot_of_answer rfl rfl rfl rfl

theorem leavesSlot_delay (hardware : Hardware) (milliseconds : UInt32)
    (spare : Spare hardware.interruptOperations) :
    hardware.LeavesSlot (hardware.delay milliseconds) :=
  have leaves := leavesSlot_continueDelay
    { hardware with clock := { hardware.clock with idle := true } } hardware.clock.ticks
    (Clock.ticksOf milliseconds) spare
  ⟨leaves.slot, leaves.interrupts, leaves.next, leaves.frames⟩

theorem leavesSlot_perform {hardware : Hardware} {operation : Operation}
    (spare : Spare hardware.interruptOperations) (spares : operation.sparesSlot = true)
    (other : operation ≠ .runTask) : hardware.LeavesSlot (hardware.perform operation) := by
  cases operation with
  | place id body tellHandle => cases spares
  | reap handle => cases spares
  | runTask => exact absurd rfl other
  | delay milliseconds => exact leavesSlot_delay hardware milliseconds spare
  | mainLoop => exact leavesSlot_mainLoop hardware
  | _ => exact leavesSlot_of_answer rfl rfl rfl rfl

/-- Going on with waiting work. Releasing a task leaves an empty slot as it is. -/
theorem leavesSlot_resume {hardware : Hardware} {frame : Frame} (outcome : Outcome Value)
    (spare : Spare hardware.interruptOperations) (rest : Spare (frameOperations (.host frame)))
    (released : runsTask (.host frame) = true → hardware.slot.holder = none) :
    hardware.LeavesSlot (hardware.resume frame outcome) := by
  cases frame with
  | delaying start span => exact leavesSlot_continueDelay hardware start span spare
  | interrupt wakeUp operations =>
    exact (leavesSlot_carryOut hardware (.interrupt wakeUp) (fun _ => rfl) (fun _ => rfl)
      rest).noted [.interrupt wakeUp outcome]
  | job id operations =>
    exact (leavesSlot_carryOut hardware (.job id) (fun _ => rfl) (fun _ => rfl) rest).noted
      [.jobStep id outcome]
  | running handle =>
    exact leavesSlot_of_answer (hardware.slot.release_of_empty handle (released rfl)) rfl rfl rfl
  | mainLoop =>
    simp only [resume]
    split
    · exact (leavesSlot_sleep spare).before _ rfl rfl
    · exact leavesSlot_mainLoop hardware

theorem runTask_of_empty (hardware : Hardware) (empty : hardware.slot.holder = none) :
    hardware.runTask = hardware.answer (.value (.ran false)) := by
  rw [runTask, empty]

theorem runTask_of_sampling (hardware : Hardware) (handle : UInt32)
    (held : hardware.slot.holder = some (handle, .sampling)) :
    hardware.runTask =
      { state := hardware, next := .call .runTask, frames := [.running handle] } := by
  rw [runTask, held]

end Hardware

/-! ### The slot and the monitor -/

/-- What is in the slot in a state of the monitor's life. -/
def occupant : Life UInt32 → Option (UInt32 × Job)
  | .off => none
  | .on handle => some (handle, .sampling)

/-- The slot holds the task of the monitor, under the handle that the monitor holds, and nothing
else; and no interrupt to come uses the slot. -/
structure InStep (session : Session vocabulary) (life : Life UInt32) : Prop where
  lives : session.monitor.Lives life
  holder : session.state.slot.holder = occupant life
  interrupts : Spare session.state.interruptOperations

theorem InStep.eq_off {session : Session vocabulary} {life : Life UInt32}
    (inStep : InStep session life) (unwanted : session.monitor.shouldRun = false) :
    life = .off := by
  cases life with
  | off => rfl
  | on handle => exact absurd (inStep.lives.2.1.symm.trans unwanted) Bool.false_ne_true.symm

theorem InStep.holder_eq {session : Session vocabulary} {life : Life UInt32}
    (inStep : InStep session life) :
    session.state.slot.holder =
      session.monitor.task.map fun handle => (handle, Job.sampling) := by
  cases life with
  | off => rw [inStep.holder, inStep.lives.2.2]; rfl
  | on handle => rw [inStep.holder, inStep.lives.2.2]; rfl

/-- Switching on a monitor that is off places its task in the slot, under a new handle. -/
theorem InStep.start {session : Session vocabulary} (inStep : InStep session .off) :
    (session.start host).1 = .ok () ∧
      InStep (session.switch host true) (.on (session.state.slot.generation + 1)) := by
  have placed := session.state.slot.place_of_empty .sampling inStep.holder
  have spawned : host.spawn Monitor.samplingTask session.state =
      (.ok (session.state.slot.generation + 1),
        { session.state with
          slot := ⟨some (session.state.slot.generation + 1, .sampling),
            session.state.slot.generation + 1⟩ }) := by
    show Hardware.spawn Monitor.samplingTask session.state = _
    rw [Hardware.spawn, placed]
  obtain ⟨-, state, started⟩ := session.switch_on_of_off host inStep.lives
  rw [spawned] at state started
  refine ⟨?_, started, by rw [state]; rfl, ?_⟩
  · simp only [Session.start, inStep.lives.1, spawned, Bool.false_eq_true, if_false]
  · rw [state]
    exact inStep.interrupts

/-- Switching off a monitor that is on empties the slot. -/
theorem InStep.stop {session : Session vocabulary} {handle : UInt32}
    (inStep : InStep session (.on handle)) : InStep (session.switch host false) .off := by
  have released := session.state.slot.release_of_held handle .sampling inStep.holder
  obtain ⟨-, state, stopped⟩ := session.switch_off_of_on host handle inStep.lives
  have reaped : host.reap handle session.state =
      { session.state with slot := { session.state.slot with holder := none } } := by
    show Hardware.reap handle session.state = _
    rw [Hardware.reap, released]
  rw [reaped] at state
  refine ⟨stopped, by rw [state]; rfl, ?_⟩
  rw [state]
  exact inStep.interrupts

theorem InStep.switch {session : Session vocabulary} {life : Life UInt32}
    (inStep : InStep session life) (on : Bool) :
    ∃ next, InStep (session.switch host on) next := by
  cases on with
  | true =>
    cases life with
    | off => exact ⟨_, inStep.start.2⟩
    | on handle =>
      rw [session.switch_on_of_on host handle inStep.lives]
      exact ⟨_, inStep⟩
  | false =>
    cases life with
    | off =>
      rw [session.switch_off_of_off host inStep.lives]
      exact ⟨_, inStep⟩
    | on handle => exact ⟨_, inStep.stop⟩

/-! ### Every step -/

/-- What holds of every configuration in which the monitor is the only client of the slot. -/
structure Alone (machine : Machine vocabulary) : Prop where
  inStep : ∃ life, InStep machine.session life
  control : Spare (commanded machine.control)
  attended : Attended machine.stack
  /-- A task that the next outcome goes to has just been called, or it is over and the monitor is
  off. -/
  called : topRuns machine.stack = true → machine.control = .call .runTask ∨
    (∃ outcome, machine.control = .deliver outcome) ∧ machine.session.monitor.shouldRun = false

theorem Alone.below {machine : Machine vocabulary} (alone : Alone machine)
    {frame : Monitor.Frame vocabulary} {rest : List (Monitor.Frame vocabulary)}
    (top : machine.stack = frame :: rest) :
    Spare (frameOperations frame) ∧ (topRuns rest = true → frame.ofTask = true) ∧
      Attended rest := by
  have attended := alone.attended
  rw [top] at attended
  exact attended

/-- The outcome of a call, other than the one to the body of a task, does not go to a task. -/
theorem Alone.free_of_call {machine : Machine vocabulary} (alone : Alone machine)
    {call : Monitor.Call} (asked : machine.control = .call call) (other : call ≠ .runTask) :
    topRuns machine.stack ≠ true := by
  intro runs
  rcases alone.called runs with called | ⟨⟨outcome, given⟩, -⟩
  · exact other (Control.call.inj (asked.symm.trans called))
  · rw [asked] at given
    cases given

/-- The outcome of an operation does not go to a task. -/
theorem Alone.free_of_perform {machine : Machine vocabulary} (alone : Alone machine)
    {operation : Operation} (asked : machine.control = .perform operation) :
    topRuns machine.stack ≠ true := by
  intro runs
  rcases alone.called runs with called | ⟨⟨outcome, given⟩, -⟩
  · rw [asked] at called
    cases called
  · rw [asked] at given
    cases given

/-- Handing on an outcome, which goes to a task only if the monitor is off. -/
theorem alone_deliver {session : Session vocabulary} {stack : List (Monitor.Frame vocabulary)}
    (outcome : Outcome Value) (inStep : ∃ life, InStep session life) (attended : Attended stack)
    (called : topRuns stack = true → session.monitor.shouldRun = false) :
    Alone ⟨session, stack, .deliver outcome⟩ :=
  ⟨inStep, spare_nil, attended, fun runs => .inr ⟨⟨outcome, rfl⟩, called runs⟩⟩

/-- Following a plan that leaves the slot, whose outcome does not go to a task. -/
theorem alone_follow (machine : Machine vocabulary) {plan : Plan vocabulary}
    (inStep : ∃ life, InStep machine.session life) (attended : Attended machine.stack)
    (free : topRuns machine.stack ≠ true) (leaves : machine.session.state.LeavesSlot plan) :
    Alone (machine.follow plan) := by
  obtain ⟨life, inStep⟩ := inStep
  obtain ⟨above, idle⟩ := attended_append plan.frames leaves.frames free attended
  refine ⟨⟨life, inStep.lives, ?_, ?_⟩, leaves.next, above, fun runs => ?_⟩
  · show plan.state.slot.holder = _
    rw [leaves.slot]
    exact inStep.holder
  · show Spare plan.state.interruptOperations
    rw [Hardware.interruptOperations, leaves.interrupts]
    exact inStep.interrupts
  · exact absurd runs idle

/-- The body of a task begins its next pause. -/
theorem alone_beginDelay (machine : Machine vocabulary)
    (inStep : ∃ life, InStep machine.session life) (attended : Attended machine.stack) :
    Alone (machine.beginDelay host) := by
  obtain ⟨life, inStep⟩ := inStep
  let pausing : Machine vocabulary :=
    { machine with
      session := machine.session.record (.delayed Settings.sampleDelay)
      stack := .delaying :: machine.stack }
  have same : InStep pausing.session life := ⟨inStep.lives, inStep.holder, inStep.interrupts⟩
  exact alone_follow pausing ⟨life, same⟩ ⟨spare_nil, fun _ => rfl, attended⟩ nofun
    (Hardware.leavesSlot_delay _ Settings.sampleDelay inStep.interrupts)

/-- A sample begins; on the board nothing comes between reading the counters and using them. -/
theorem alone_beginSample (machine : Machine vocabulary) (byTask : Bool)
    (inStep : ∃ life, InStep machine.session life) (attended : Attended machine.stack)
    (body : topRuns machine.stack = true → byTask = true) :
    Alone (machine.beginSample host byTask) := by
  obtain ⟨life, inStep⟩ := inStep
  let measuring : Machine vocabulary :=
    { machine with
      session := (machine.session.record .readIdle).record .readTotal
      stack := .sampling byTask (host.runTime machine.session.state) :: machine.stack }
  have same : InStep measuring.session life := ⟨inStep.lives, inStep.holder, inStep.interrupts⟩
  exact alone_follow measuring ⟨life, same⟩ ⟨spare_nil, body, attended⟩ nofun
    (Hardware.leavesSlot_of_answer rfl rfl rfl rfl)

/-- The task in the slot is looked for, and called if it is there. -/
theorem alone_runTask {machine : Machine vocabulary} (alone : Alone machine)
    (free : topRuns machine.stack ≠ true) :
    Alone (machine.follow machine.session.state.runTask) := by
  obtain ⟨life, inStep⟩ := alone.inStep
  cases life with
  | off =>
    rw [Hardware.runTask_of_empty _ inStep.holder]
    exact alone_follow machine ⟨_, inStep⟩ alone.attended free
      (Hardware.leavesSlot_of_answer rfl rfl rfl rfl)
  | on handle =>
    rw [Hardware.runTask_of_sampling _ handle inStep.holder]
    refine ⟨⟨_, inStep.lives, inStep.holder, inStep.interrupts⟩, spare_nil, ?_, fun _ => .inl rfl⟩
    exact ⟨spare_nil, fun runs => absurd runs free, alone.attended⟩

theorem alone_of_transition {machine next : Machine vocabulary}
    (taken : Transition host machine next) (alone : Alone machine) : Alone next := by
  obtain ⟨life, inStep⟩ := alone.inStep
  have stored : ∀ sampler event, InStep
      ({ machine.session with
        monitor := { machine.session.monitor with sampler } }.record event) life :=
    fun sampler _ => ⟨inStep.lives.of_sampler sampler, inStep.holder, inStep.interrupts⟩
  cases taken with
  | rest => exact alone
  | switch on outcome asked =>
    obtain ⟨call, called⟩ := Machine.call_of_switching asked
    have other : call ≠ .runTask := by
      rintro rfl
      rw [Machine.switching, called] at asked
      cases asked
    have free := alone.free_of_call called other
    exact alone_deliver outcome (inStep.switch on) alone.attended fun runs => absurd runs free
  | answer call outcome asked unswitched passive =>
    have free := alone.free_of_call asked passive.2
    exact alone_deliver outcome alone.inStep alone.attended fun runs => absurd runs free
  | decline asked unwanted =>
    exact alone_deliver .done alone.inStep alone.attended fun _ => unwanted
  | enter => exact alone_beginDelay machine alone.inStep alone.attended
  | measure asked =>
    have free := alone.free_of_call asked (by decide)
    exact alone_beginSample machine false alone.inStep alone.attended
      fun runs => absurd runs free
  | wake rest outcome given top =>
    exact alone_beginSample { machine with stack := rest } true alone.inStep (alone.below top).2.2
      fun _ => rfl
  | leave frame rest outcome given top task unwanted =>
    exact alone_deliver .done alone.inStep (alone.below top).2.2 fun _ => unwanted
  | publish reading rest outcome given top =>
    exact alone_beginDelay ({ machine with stack := rest }.store true reading).2
      ⟨life, stored _ _⟩ (alone.below top).2.2
  | conclude reading rest outcome given top =>
    -- A direct sample is not the body of a task, so its outcome does not go to one.
    obtain ⟨-, body, attended⟩ := alone.below top
    exact alone_deliver _ ⟨life, stored _ _⟩ attended
      fun runs => absurd (body runs) Bool.false_ne_true
  | perform operation asked =>
    have free := alone.free_of_perform asked
    have spares : operation.sparesSlot = true := by
      have control := alone.control
      rw [asked] at control
      exact control operation List.mem_cons_self
    by_cases runs : operation = .runTask
    · rw [runs]
      exact alone_runTask alone free
    · exact alone_follow machine alone.inStep alone.attended free
        (Hardware.leavesSlot_perform inStep.interrupts spares runs)
  | resume frame rest outcome given top =>
    obtain ⟨spare, body, attended⟩ := alone.below top
    -- Only the body of a task hands an outcome to the task, and it ends when the monitor is off.
    have released : runsTask (.host frame) = true → machine.session.state.slot.holder = none := by
      intro runs
      rcases alone.called (by rw [top]; exact runs) with called | ⟨-, unwanted⟩
      · rw [given] at called
        cases called
      · rw [inStep.holder, inStep.eq_off unwanted]
        rfl
    have free : topRuns rest ≠ true := fun runs => absurd (body runs) Bool.false_ne_true
    exact alone_follow { machine with stack := rest } alone.inStep attended free
      (Hardware.leavesSlot_resume outcome inStep.interrupts spare released)

theorem Alone.move {machine next : Machine vocabulary} (alone : Alone machine)
    (taken : SoleMove machine next) : Alone next := by
  cases taken with
  | step => exact alone_of_transition (Machine.transition_step host machine) alone
  | disturb hardware slot spare =>
    obtain ⟨life, inStep⟩ := alone.inStep
    refine ⟨⟨life, inStep.lives, ?_, spare⟩, alone.control, alone.attended, alone.called⟩
    show hardware.slot.holder = _
    rw [slot]
    exact inStep.holder
  | next outcome control given empty spare =>
    refine ⟨alone.inStep, spare, alone.attended, fun runs => ?_⟩
    rw [empty] at runs
    cases runs

theorem SoleClient.alone {machine : Machine vocabulary} (sole : SoleClient machine) :
    Alone machine := by
  obtain ⟨hardware, control, empty, interrupts, spare, path⟩ := sole
  induction path with
  | refl => exact ⟨⟨.off, ⟨rfl, rfl, rfl⟩, empty, interrupts⟩, spare, trivial, nofun⟩
  | tail _ taken inductionHypothesis => exact inductionHypothesis.move taken

/-! ### Running the task in the slot -/

/-- What is begun at `called` is over at `returned`: up to there, something was in progress above
the frames that wait for its outcome. -/
structure Returns (called returned : Machine vocabulary) (outcome : Outcome Value) : Prop where
  path : Relation.ReflTransGen
    (fun before after => SoleMove before after ∧ called.stack.length < before.stack.length)
    (called.step host) returned
  stack : returned.stack = called.stack
  control : returned.control = .deliver outcome

/-- Looking for a task while the monitor is off. -/
theorem step_of_runTask_idle {machine : Machine vocabulary}
    (inStep : InStep machine.session .off) (asked : machine.control = .perform .runTask) :
    machine.step host = machine.deliver (.value (.ran false)) := by
  obtain ⟨session, stack, control⟩ := machine
  cases asked
  show Machine.follow _ session.state.runTask = _
  rw [Hardware.runTask_of_empty _ inStep.holder]
  rfl

/-- Looking for a task while the monitor is on. -/
theorem step_of_runTask_busy {machine : Machine vocabulary} {handle : UInt32}
    (inStep : InStep machine.session (.on handle)) (asked : machine.control = .perform .runTask) :
    machine.step host =
      { machine with
        stack := taskFrame handle :: machine.stack
        control := .call .runTask } := by
  obtain ⟨session, stack, control⟩ := machine
  cases asked
  show Machine.follow _ session.state.runTask = _
  rw [Hardware.runTask_of_sampling _ handle inStep.holder]
  rfl

/-- When a task has returned the monitor is off and the slot is empty, so that releasing the task
changes nothing. -/
theorem Alone.step_of_returned {machine : Machine vocabulary} (alone : Alone machine)
    {handle : UInt32} {below : List (Monitor.Frame vocabulary)}
    (resumes : machine.Resumes (taskFrame handle) below) :
    InStep machine.session .off ∧
      machine.step host =
        { machine with stack := below, control := .deliver (.value (.ran true)) } := by
  obtain ⟨session, stack, control⟩ := machine
  obtain ⟨outcome, given, top⟩ := resumes
  cases given
  cases top
  obtain ⟨life, inStep⟩ := alone.inStep
  have unwanted : session.monitor.shouldRun = false := by
    rcases alone.called rfl with called | ⟨-, unwanted⟩
    · cases called
    · exact unwanted
  cases inStep.eq_off unwanted
  refine ⟨inStep, ?_⟩
  show Machine.follow ⟨session, below, _⟩ ((session.state.reap handle).answer _) = _
  rw [Hardware.reap, session.state.slot.release_of_empty handle inStep.holder]
  rfl

/-- A task that was called is still being run, or it has just returned. -/
theorem running_or_returned {machine later : Machine vocabulary} {handle : UInt32}
    {below : List (Monitor.Frame vocabulary)} (alone : Alone machine)
    (held : taskFrame handle :: below <:+ machine.stack)
    (path : Relation.ReflTransGen
      (fun before after => SoleMove before after ∧ below.length < before.stack.length)
      machine later) :
    Alone later ∧ (taskFrame handle :: below <:+ later.stack ∨
      later.stack = below ∧ later.control = .deliver (.value (.ran true)) ∧
        InStep later.session .off) := by
  -- Once the task has returned its frame is gone, and the path is at its end.
  induction path with
  | refl => exact ⟨alone, .inl held⟩
  | @tail before after _ taken inductionHypothesis =>
    obtain ⟨move, above⟩ := taken
    obtain ⟨kept, running | ⟨returned, -⟩⟩ := inductionHypothesis
    · refine ⟨kept.move move, ?_⟩
      cases move with
      | step =>
        rcases Machine.suffix_or_resumes (Machine.transition_step host before) running with
          still | resumes
        · exact .inl still
        · obtain ⟨inStep, ended⟩ := kept.step_of_returned resumes
          rw [ended]
          exact .inr ⟨rfl, rfl, inStep⟩
      | disturb => exact .inl running
      | next outcome control given empty =>
        rw [empty] at running
        exact absurd running.length_le (Nat.not_succ_le_zero _)
    · rw [returned] at above
      exact absurd above (Nat.lt_irrefl _)

/-- Looking for a task ends with whether there was one, which is whether the monitor was on; and by
then the monitor is off. -/
theorem Alone.of_returns {machine returned : Machine vocabulary} {outcome : Outcome Value}
    (alone : Alone machine) (asked : machine.control = .perform .runTask)
    (returns : Returns machine returned outcome) :
    outcome = .value (.ran machine.session.monitor.running) ∧ InStep returned.session .off := by
  obtain ⟨life, inStep⟩ := alone.inStep
  obtain ⟨path, stack, control⟩ := returns
  cases life with
  | off =>
    rw [step_of_runTask_idle inStep asked] at path
    rcases path.cases_head with same | ⟨middle, ⟨-, above⟩, -⟩
    · cases same
      cases control
      exact ⟨by rw [inStep.lives.1], inStep⟩
    · exact absurd above (Nat.lt_irrefl _)
  | on handle =>
    have begun : taskFrame handle :: machine.stack <:+ (machine.step host).stack :=
      ⟨[], (congrArg Machine.stack (step_of_runTask_busy inStep asked)).symm⟩
    obtain ⟨-, running | ⟨-, delivered, off⟩⟩ :=
      running_or_returned (alone.move .step) begun path
    · rw [stack] at running
      exact absurd running.length_le (Nat.not_succ_le_self _)
    · rw [control] at delivered
      cases delivered
      exact ⟨by rw [inStep.lives.1], off⟩

/-- The slot follows the monitor. On a board on which nobody else uses the slot, at every moment of
a run the slot holds the task of the monitor under the handle that the monitor holds, and is empty
while the monitor is off. Hence a start never fails.

Looking for a task while the monitor is off ends at once without one. While the monitor is on the
task is found and called; and whatever is done meanwhile, by the time the task has returned the
monitor is off and the slot is empty. So the release that comes after it removes nothing. -/
theorem slot_follows_monitor (machine : Machine vocabulary) (sole : SoleClient machine) :
    (machine.session.state.slot.holder =
        machine.session.monitor.task.map fun handle => (handle, Job.sampling)) ∧
    machine.session.monitor.running = machine.session.monitor.task.isSome ∧
    ((machine.session.start host).1 = .ok () ∧
      (machine.session.start host).2.monitor.running = true) ∧
    (machine.control = .perform .runTask →
      (machine.session.monitor.running = false →
        machine.step host = machine.deliver (.value (.ran false))) ∧
      (machine.session.monitor.running = true →
        ∃ handle, machine.session.state.slot.holder = some (handle, .sampling) ∧
          machine.step host =
            { machine with
              stack := taskFrame handle :: machine.stack
              control := .call .runTask }) ∧
      ∀ returned outcome, Returns machine returned outcome →
        outcome = .value (.ran machine.session.monitor.running) ∧
          returned.session.monitor.running = false ∧
          returned.session.state.slot.holder = none) ∧
    ∀ handle below, machine.Resumes (taskFrame handle) below →
      machine.session.monitor.running = false ∧
        machine.session.state.slot.holder = none ∧
        machine.step host =
          { machine with stack := below, control := .deliver (.value (.ran true)) } := by
  have alone := sole.alone
  obtain ⟨life, inStep⟩ := alone.inStep
  refine ⟨inStep.holder_eq, inStep.lives.running_eq_isSome, ?_, fun asked => ⟨?_, ?_, ?_⟩, ?_⟩
  · cases life with
    | off => exact ⟨inStep.start.1, inStep.start.2.lives.1⟩
    | on handle =>
      rw [machine.session.start_of_running host inStep.lives.1]
      exact ⟨rfl, inStep.lives.1⟩
  · intro off
    cases inStep.eq_off (inStep.lives.running_eq_shouldRun.symm.trans off)
    exact step_of_runTask_idle inStep asked
  · intro on
    obtain ⟨handle, rfl⟩ := inStep.lives.eq_on (inStep.lives.running_eq_shouldRun.symm.trans on)
    exact ⟨handle, inStep.holder, step_of_runTask_busy inStep asked⟩
  · intro returned outcome returns
    obtain ⟨found, off⟩ := alone.of_returns asked returns
    exact ⟨found, off.lives.1, off.holder⟩
  · intro handle below resumes
    obtain ⟨off, ended⟩ := alone.step_of_returned resumes
    exact ⟨off.lives.1, off.holder, ended⟩

/-! ### A restart inside a delay -/

/-- A board with two interrupts to come. The first stops the monitor and starts it again, the second
stops it for good; both set the clock ahead, to the end of the delay in which they come. -/
def interrupted : Hardware :=
  { Hardware.switchedOn 0 0 with
    sleepLimit := 2
    interrupts :=
      [⟨1, [.call .stop, .call .start, .preset ⟨1000, 0⟩]⟩,
        ⟨2, [.call .stop, .preset ⟨2000, 0⟩]⟩] }

/-- Some steps of running the task of the monitor on that board. -/
def reoccupying (steps : Nat) : Machine vocabulary :=
  steps.repeat (Machine.step host)
    ⟨((Session.fresh interrupted).start host).2, [], .perform .runTask⟩

theorem soleClient_reoccupying (steps : Nat) : SoleClient (reoccupying steps) := by
  induction steps with
  | zero =>
    have started : Relation.ReflTransGen SoleMove ⟨.fresh interrupted, [], .call .start⟩
        ⟨((Session.fresh interrupted).start host).2, [], .deliver (.switched (.ok ()))⟩ :=
      .single .step
    exact ⟨interrupted, .call .start, rfl, by decide, spare_nil,
      started.tail (.next _ (.perform .runTask) rfl rfl (by decide))⟩
  | succ steps inductionHypothesis =>
    obtain ⟨hardware, control, empty, interrupts, spare, path⟩ := inductionHypothesis
    exact ⟨hardware, control, empty, interrupts, spare, path.tail .step⟩

theorem returns_reoccupying :
    Returns (reoccupying 0) (reoccupying 21) (.value (.ran true)) where
  path := by
    have above : ∀ count < 20, 0 < (reoccupying (count + 1)).stack.length := by decide
    suffices path : ∀ count ≤ 20, Relation.ReflTransGen
        (fun before after => SoleMove before after ∧ 0 < before.stack.length)
        (reoccupying 1) (reoccupying (count + 1)) from path 20 (Nat.le_refl 20)
    intro count within
    induction count with
    | zero => exact .refl
    | succ count inductionHypothesis =>
      exact (inductionHypothesis (Nat.le_of_succ_le within)).tail ⟨.step, above count within⟩
  stack := rfl
  control := rfl

/-- In the middle of the run the first task is still being run, and the slot already holds the
second one. When the first task has returned the monitor is off, and nothing has been released. -/
theorem slot_follows_monitor_reoccupying :
    (taskFrame 1 ∈ (reoccupying 10).stack ∧
      (reoccupying 10).session.state.slot.holder = some (2, .sampling)) ∧
    (Returns (reoccupying 0) (reoccupying 21) (.value (.ran true)) ∧
      (reoccupying 21).session.monitor.running = false ∧
      (reoccupying 21).session.state.slot.holder = none) ∧
    (reoccupying 21).session = (reoccupying 20).session := by
  obtain ⟨held, -⟩ := slot_follows_monitor (reoccupying 10) (soleClient_reoccupying 10)
  obtain ⟨-, -, -, runs, -⟩ := slot_follows_monitor (reoccupying 0) (soleClient_reoccupying 0)
  obtain ⟨-, -, -, -, released⟩ :=
    slot_follows_monitor (reoccupying 20) (soleClient_reoccupying 20)
  obtain ⟨-, -, ended⟩ := released 1 [] ⟨.done, rfl, rfl⟩
  refine ⟨⟨List.mem_of_mem_getLast? rfl, held⟩, ⟨returns_reoccupying, ?_⟩, ?_⟩
  · exact ((runs rfl).2.2 _ _ returns_reoccupying).2
  · show ((reoccupying 20).step host).session = _
    rw [ended]

end BoardSupport.Board
