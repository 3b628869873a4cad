/-
This file proves that the handles of the board tell its tasks apart, so that an old
handle cannot remove a newer task. Beside a run of the board the ledger of its slot is
kept. Every step asks at most one thing of the slot, and does to it nothing but that; so
the ledger stays right about the slot whoever asks, and whenever. A task may be removed
and replaced while it is being run, by its own body or by an interrupt. The release at
its end is for the handle under which it began, and removes nobody else.
-/

import BoardSupport.Proofs.Board.Occupancy
import BoardSupport.Proofs.Board.SlotLedger

namespace BoardSupport.Board

open Monitor (Control Machine Outcome Plan Session Transition)

/-! ### What the board asks of its slot -/

/-- What an operation asks of the slot. -/
def Operation.slotRequest : Operation → Option (TaskSlot.Request Job)
  | .place id body _ => some (.place (.body id body))
  | .reap handle => some (.release handle)
  | _ => none

/-- What work that waits asks of the slot when it goes on: a task that was run is released. -/
def Frame.slotRequest : Frame → Option (TaskSlot.Request Job)
  | .running handle => some (.release handle)
  | _ => none

/-- What the monitor asks of the slot when it is switched. -/
def switchRequest (session : Session vocabulary) (on : Bool) : Option (TaskSlot.Request Job) :=
  if on then if session.monitor.running then none else some (.place .sampling)
  else if session.monitor.running then session.monitor.task.map .release
  else none

/-- What the next step asks of the slot. -/
def slotRequest (machine : Machine vocabulary) : Option (TaskSlot.Request Job) :=
  match machine.control, machine.stack with
  | .call _, _ => machine.switching.bind (switchRequest machine.session)
  | .perform operation, _ => operation.slotRequest
  | .deliver _, .host frame :: _ => frame.slotRequest
  | _, _ => none

theorem switch_slot (session : Session vocabulary) (on : Bool) :
    (session.switch host on).state.slot =
      (switchRequest session on).elim session.state.slot session.state.slot.serve := by
  cases on with
  | true =>
    show (session.start host).2.state.slot = _
    cases running : session.monitor.running with
    | true =>
      rw [session.start_of_running host running, switchRequest, running]
      rfl
    | false =>
      rw [Session.start, if_neg (by rw [running]; exact Bool.false_ne_true), switchRequest, running]
      -- The monitor learns whether its task has a place, and the slot does not depend on that.
      simp only
      split <;> rfl
  | false =>
    show (session.stop host).state.slot = _
    cases running : session.monitor.running with
    | true =>
      rw [Session.stop, if_pos running, switchRequest, running]
      cases session.monitor.task <;> rfl
    | false =>
      rw [session.stop_of_not_running host running, switchRequest, running]
      rfl

namespace Hardware

/-- A plan of the board does to the slot what it is asked for, and a task that it begins to run is
the one in the slot. -/
structure Serves (hardware : Hardware) (request : Option (TaskSlot.Request Job))
    (plan : Plan vocabulary) : Prop where
  slot : plan.state.slot = request.elim hardware.slot hardware.slot.serve
  runs : ∀ handle, Frame.running handle ∈ plan.frames →
    ∃ job, hardware.slot.holder = some (handle, job)

theorem serves_of_answer {hardware : Hardware} {request : Option (TaskSlot.Request Job)}
    {plan : Plan vocabulary}
    (slot : plan.state.slot = request.elim hardware.slot hardware.slot.serve)
    (frames : plan.frames = []) : hardware.Serves request plan where
  slot := slot
  runs := by
    rw [frames]
    exact nofun

/-- A plan to which only a frame is added that runs no task, or runs the one in the slot. -/
theorem Serves.before {hardware : Hardware} {plan : Plan vocabulary}
    (serves : hardware.Serves none plan) (frame : Frame)
    (runs : ∀ handle, frame = .running handle → ∃ job, hardware.slot.holder = some (handle, job)) :
    hardware.Serves none (before plan frame) where
  slot := serves.slot
  runs handle member := by
    rcases List.mem_append.mp member with member | member
    · exact serves.runs handle member
    · exact runs handle (List.mem_singleton.mp member).symm

/-- The main loop looks for a task. -/
theorem serves_mainLoop (hardware : Hardware) :
    hardware.Serves none
      { state := hardware, next := .perform .runTask, frames := [.mainLoop] } where
  slot := rfl
  runs handle member := by cases List.mem_singleton.mp member

theorem serves_carryOut (hardware : Hardware) (frame : List Operation → Frame)
    (idle : ∀ rest handle, frame rest ≠ .running handle) (operations : List Operation) :
    hardware.Serves none (hardware.carryOut frame operations) := by
  cases operations with
  | nil => exact serves_of_answer rfl rfl
  | cons operation rest =>
    exact ⟨rfl, fun handle member => absurd (List.mem_singleton.mp member).symm (idle rest handle)⟩

theorem Serves.noted {hardware : Hardware} {request : Option (TaskSlot.Request Job)}
    {plan : Plan vocabulary} (serves : hardware.Serves request plan) (notes : List Note) :
    hardware.Serves request { plan with notes } :=
  ⟨serves.slot, serves.runs⟩

theorem serves_sleep (hardware : Hardware) : hardware.Serves none hardware.sleep := by
  unfold sleep
  split
  · have serves := serves_carryOut
      { hardware with clock := hardware.clock.tick, wakeUps := hardware.wakeUps + 1 }
      (.interrupt (hardware.wakeUps + 1)) nofun
      ((hardware.interrupts.filter (·.wakeUp = hardware.wakeUps + 1)).flatMap Interrupt.operations)
    exact ⟨serves.slot, serves.runs⟩
  · exact serves_of_answer rfl rfl

theorem serves_continueDelay (hardware : Hardware) (start span : UInt32) :
    hardware.Serves none (hardware.continueDelay start span) := by
  unfold continueDelay
  split
  · exact hardware.serves_sleep.before _ nofun
  · exact serves_of_answer rfl rfl

theorem serves_delay (hardware : Hardware) (milliseconds : UInt32) :
    hardware.Serves none (hardware.delay milliseconds) :=
  have serves := serves_continueDelay
    { hardware with clock := { hardware.clock with idle := true } } hardware.clock.ticks
    (Clock.ticksOf milliseconds)
  ⟨serves.slot, serves.runs⟩

theorem serves_runTask (hardware : Hardware) : hardware.Serves none hardware.runTask := by
  unfold runTask
  split
  · exact serves_of_answer rfl rfl
  · rename_i handle holder
    refine ⟨rfl, fun other member => ?_⟩
    cases List.mem_singleton.mp member
    exact ⟨_, holder⟩
  · rename_i handle id operations holder
    refine ((hardware.serves_carryOut (.job id) nofun operations).noted [.jobStarted id]).before
      (.running handle) ?_
    rintro other ⟨⟩
    exact ⟨_, holder⟩

theorem serves_perform (hardware : Hardware) (operation : Operation) :
    hardware.Serves operation.slotRequest (hardware.perform operation) := by
  cases operation with
  | delay milliseconds => exact hardware.serves_delay milliseconds
  | runTask => exact hardware.serves_runTask
  | mainLoop => exact hardware.serves_mainLoop
  | _ => exact serves_of_answer rfl rfl

theorem serves_resume (hardware : Hardware) (frame : Frame) (outcome : Outcome Value) :
    hardware.Serves frame.slotRequest (hardware.resume frame outcome) := by
  cases frame with
  | delaying start span => exact hardware.serves_continueDelay start span
  | interrupt wakeUp rest =>
    exact (hardware.serves_carryOut (.interrupt wakeUp) nofun rest).noted
      [.interrupt wakeUp outcome]
  | job id rest =>
    exact (hardware.serves_carryOut (.job id) nofun rest).noted [.jobStep id outcome]
  | running handle => exact serves_of_answer rfl rfl
  | mainLoop =>
    simp only [resume]
    split
    · refine hardware.serves_sleep.before _ ?_
      rintro handle ⟨⟩
    · exact hardware.serves_mainLoop

end Hardware

/-! ### What a step does to the slot -/

/-- A step does to the slot what it asks for. Whatever task is being run after it was already being
run before, or it is the one in the slot. -/
structure Served (machine next : Machine vocabulary) : Prop where
  slot : next.session.state.slot =
    (slotRequest machine).elim machine.session.state.slot machine.session.state.slot.serve
  runs : ∀ handle, taskFrame handle ∈ next.stack →
    taskFrame handle ∈ machine.stack ∨ ∃ job, machine.session.state.slot.holder = some (handle, job)

theorem served_of_still {machine next : Machine vocabulary} (unasked : slotRequest machine = none)
    (slot : next.session.state.slot = machine.session.state.slot)
    (stack : next.stack <:+ machine.stack) : Served machine next where
  slot := by
    rw [unasked]
    exact slot
  runs handle member := .inl (stack.subset member)

theorem served_of_follow {machine : Machine vocabulary} (middle : Machine vocabulary)
    {plan : Plan vocabulary} (stack : ∀ handle, taskFrame handle ∈ middle.stack →
      taskFrame handle ∈ machine.stack)
    (serves : machine.session.state.Serves (slotRequest machine) plan) :
    Served machine (middle.follow plan) where
  slot := serves.slot
  runs handle member := by
    rcases List.mem_append.mp member with above | below
    · obtain ⟨frame, planned, same⟩ := List.mem_map.mp above
      cases same
      exact .inr (serves.runs handle planned)
    · exact .inl (stack handle below)

/-- The body of a task begins its next pause. -/
theorem served_beginDelay (machine middle : Machine vocabulary)
    (unasked : slotRequest machine = none)
    (state : middle.session.state = machine.session.state)
    (stack : middle.stack <:+ machine.stack) : Served machine (middle.beginDelay host) := by
  refine served_of_follow
    { middle with
      session := middle.session.record (.delayed Settings.sampleDelay)
      stack := .delaying :: middle.stack } (fun handle member => ?_) ?_
  · rcases List.mem_cons.mp member with other | member
    · cases other
    · exact stack.subset member
  · rw [unasked, ← state]
    exact Hardware.serves_delay middle.session.state Settings.sampleDelay

theorem served_beginSample (machine middle : Machine vocabulary)
    (byTask : Bool) (unasked : slotRequest machine = none)
    (state : middle.session.state = machine.session.state)
    (stack : middle.stack <:+ machine.stack) : Served machine (middle.beginSample host byTask) := by
  refine served_of_follow
    { middle with
      session := (middle.session.record .readIdle).record .readTotal
      stack := .sampling byTask (host.runTime middle.session.state) :: middle.stack }
    (fun handle member => ?_) ?_
  · rcases List.mem_cons.mp member with other | member
    · cases other
    · exact stack.subset member
  · rw [unasked, ← state]
    exact Hardware.serves_of_answer rfl rfl

theorem served_of_transition {machine next : Machine vocabulary}
    (taken : Transition host machine next) : Served machine next := by
  cases taken with
  | rest ended =>
    refine served_of_still ?_ rfl (List.suffix_refl _)
    obtain ⟨session, stack, control⟩ := machine
    cases control with
    | call call => exact absurd rfl ended
    | perform operation => exact absurd rfl ended
    | abandon => rfl
    | deliver outcome =>
      cases stack with
      | nil => rfl
      | cons frame rest => exact absurd rfl ended
  | switch on outcome asked =>
    obtain ⟨call, called⟩ := Machine.call_of_switching asked
    refine ⟨?_, fun handle member => .inl member⟩
    rw [slotRequest, called, asked]
    exact switch_slot machine.session on
  | answer call outcome asked unswitched =>
    exact served_of_still (by rw [slotRequest, asked, unswitched]; rfl) rfl (List.suffix_refl _)
  | decline asked =>
    exact served_of_still (by rw [slotRequest, asked, Machine.switching, asked]; rfl) rfl
      (List.suffix_refl _)
  | enter asked =>
    exact served_beginDelay machine machine
      (by rw [slotRequest, asked, Machine.switching, asked]; rfl) rfl (List.suffix_refl _)
  | measure asked =>
    exact served_beginSample machine machine false
      (by rw [slotRequest, asked, Machine.switching, asked]; rfl) rfl (List.suffix_refl _)
  | wake rest outcome given top =>
    exact served_beginSample machine { machine with stack := rest } true
      (by rw [slotRequest, given, top]) rfl (top ▸ List.suffix_cons _ _)
  | leave frame rest outcome given top task =>
    refine served_of_still ?_ rfl (top ▸ List.suffix_cons _ _)
    rw [slotRequest, given, top]
    cases frame with
    | host frame => cases task
    | _ => rfl
  | publish reading rest outcome given top =>
    exact served_beginDelay machine ({ machine with stack := rest }.store true reading).2
      (by rw [slotRequest, given, top]) rfl (top ▸ List.suffix_cons _ _)
  | conclude reading rest outcome given top =>
    exact served_of_still (by rw [slotRequest, given, top]) rfl (top ▸ List.suffix_cons _ _)
  | perform operation asked =>
    refine served_of_follow machine (fun _ member => member) ?_
    rw [slotRequest, asked]
    exact machine.session.state.serves_perform operation
  | resume frame rest outcome given top =>
    refine served_of_follow { machine with stack := rest } (fun handle member => ?_) ?_
    · rw [top]
      exact List.mem_cons_of_mem _ member
    · rw [slotRequest, given, top]
      exact machine.session.state.serves_resume frame outcome

/-- Running the task in the slot begins with a frame that waits for it under its handle. -/
theorem Hardware.frames_runTask {hardware : Hardware} {handle : UInt32} {job : Job}
    (held : hardware.slot.holder = some (handle, job)) :
    ∃ above, hardware.runTask.frames = above ++ [.running handle] := by
  rw [runTask, held]
  cases job with
  | sampling => exact ⟨[], rfl⟩
  | body id operations => exact ⟨_, rfl⟩

/-! ### Runs with a ledger -/

/-- A configuration of the board together with the ledger of its slot. -/
structure Recorded where
  machine : Machine vocabulary
  ledger : Ledger Job

namespace Recorded

def slot (recorded : Recorded) : TaskSlot Job := recorded.machine.session.state.slot

def step (recorded : Recorded) : Recorded where
  machine := recorded.machine.step host
  ledger :=
    (slotRequest recorded.machine).elim recorded.ledger (recorded.ledger.enter recorded.slot)

/-- Exchange the hardware. -/
def onHardware (recorded : Recorded) (hardware : Hardware) : Recorded :=
  { recorded with
    machine :=
      { recorded.machine with session := { recorded.machine.session with state := hardware } } }

/-- Let somebody ask something of the slot. -/
def ask (recorded : Recorded) (request : TaskSlot.Request Job) : Recorded :=
  { recorded with ledger := recorded.ledger.enter recorded.slot request }.onHardware
    { recorded.machine.session.state with slot := recorded.slot.serve request }

/-- How a run goes on: by a step; by what somebody else, such as an interrupt, asks of the slot at
any time; by a change of the hardware anywhere but in the slot; by a job that decides to go on
otherwise than laid out; and by the next operation when none is in progress. -/
inductive Move (recorded : Recorded) : Recorded → Prop
  | step : Move recorded recorded.step
  | ask (request : TaskSlot.Request Job) : Move recorded (recorded.ask request)
  | disturb (hardware : Hardware) (slot : hardware.slot = recorded.slot) :
    Move recorded (recorded.onHardware hardware)
  | decide (id : Nat) (laidOut chosen : List Operation) (below : List (Monitor.Frame vocabulary))
      (top : recorded.machine.stack = .host (.job id laidOut) :: below) :
    Move recorded
      { recorded with
        machine := { recorded.machine with stack := .host (.job id chosen) :: below } }
  | next (outcome : Outcome Value) (control : Control vocabulary)
      (given : recorded.machine.control = .deliver outcome) (empty : recorded.machine.stack = []) :
    Move recorded { recorded with machine := { recorded.machine with control } }

/-- A configuration of a run that began with a slot that was never used. -/
def OfRun (recorded : Recorded) : Prop :=
  ∃ session control, session.state.slot = .unused ∧
    Relation.ReflTransGen Move ⟨⟨session, [], control⟩, .blank⟩ recorded

/-- The ledger is right about the slot, and every task that is being run was granted its handle. -/
structure Right (recorded : Recorded) : Prop where
  agrees : recorded.ledger.Agrees recorded.slot
  runs : ∀ handle, taskFrame handle ∈ recorded.machine.stack →
    ∃ grant ∈ recorded.ledger.grants, grant.handle = handle

theorem Right.step {recorded : Recorded} (right : recorded.Right) : recorded.step.Right := by
  have served := served_of_transition (Machine.transition_step host recorded.machine)
  have running : ∀ handle, taskFrame handle ∈ recorded.step.machine.stack →
      ∃ grant ∈ recorded.ledger.grants, grant.handle = handle := by
    intro handle member
    rcases served.runs handle member with earlier | ⟨job, held⟩
    · exact right.runs handle earlier
    · obtain ⟨grant, granted, same, -, -⟩ := right.agrees.occupant_of_held held
      exact ⟨grant, granted, same⟩
  have slot : recorded.step.slot = _ := served.slot
  cases asked : slotRequest recorded.machine with
  | none =>
    rw [asked] at slot
    have unchanged : recorded.step.ledger = recorded.ledger := by
      rw [Recorded.step, asked]
      rfl
    refine ⟨?_, by rw [unchanged]; exact running⟩
    rw [unchanged, slot]
    exact right.agrees
  | some request =>
    rw [asked] at slot
    have entered : recorded.step.ledger = recorded.ledger.enter recorded.slot request := by
      rw [Recorded.step, asked]
      rfl
    refine ⟨?_, fun handle member => ?_⟩
    · rw [entered, slot]
      exact right.agrees.enter request
    · obtain ⟨grant, granted, same⟩ := running handle member
      rw [entered]
      exact ⟨grant, recorded.ledger.grants_enter recorded.slot request granted, same⟩

theorem Right.ask {recorded : Recorded} (right : recorded.Right) (request : TaskSlot.Request Job) :
    (recorded.ask request).Right where
  agrees := right.agrees.enter request
  runs handle member := by
    obtain ⟨grant, granted, same⟩ := right.runs handle member
    exact ⟨grant, recorded.ledger.grants_enter recorded.slot request granted, same⟩

theorem Right.move {recorded next : Recorded} (right : recorded.Right)
    (taken : recorded.Move next) : next.Right := by
  cases taken with
  | step => exact right.step
  | ask request => exact right.ask request
  | disturb hardware slot =>
    refine ⟨?_, right.runs⟩
    show recorded.ledger.Agrees hardware.slot
    rw [slot]
    exact right.agrees
  | decide id laidOut chosen below top =>
    refine ⟨right.agrees, fun handle member => right.runs handle ?_⟩
    rcases List.mem_cons.mp member with other | member
    · cases other
    · rw [top]
      exact List.mem_cons_of_mem _ member
  | next => exact ⟨right.agrees, right.runs⟩

theorem OfRun.right {recorded : Recorded} (ofRun : recorded.OfRun) : recorded.Right := by
  obtain ⟨session, control, unused, path⟩ := ofRun
  induction path with
  | refl =>
    refine ⟨?_, nofun⟩
    show Ledger.blank.Agrees session.state.slot
    rw [unused]
    exact Ledger.agrees_blank
  | tail _ taken inductionHypothesis => exact inductionHypothesis.move taken

/-- The handles tell the tasks apart. -/
structure TellsApart (recorded : Recorded) : Prop where
  distinct : (recorded.ledger.grants.map Grant.handle).Nodup
  holder : recorded.slot.holder =
    recorded.ledger.occupant.map fun grant => (grant.handle, grant.job)
  granted : ∀ grant, recorded.ledger.occupant = some grant → grant ∈ recorded.ledger.grants
  places : ∀ job, recorded.slot.Places job
  releases : ∀ handle, recorded.ledger.Releases recorded.slot handle
  /-- The next step does to the slot what it asks for, and nothing else. -/
  steps : recorded.step.slot =
    (slotRequest recorded.machine).elim recorded.slot recorded.slot.serve
  /-- Whoever asked for a place is told the handle. -/
  tells : ∀ id body, recorded.machine.control = .perform (.place id body true) →
    slotRequest recorded.machine = some (.place (.body id body)) ∧
      recorded.step.machine.control =
        .deliver (.value (.handle (recorded.slot.place (.body id body)).1))
  reaps : ∀ handle, recorded.machine.control = .perform (.reap handle) →
    recorded.step.slot = recorded.slot.release handle
  /-- A run of the task in the slot begins with a frame that waits for it under its handle. -/
  begins : recorded.machine.control = .perform .runTask →
    ∀ grant, recorded.ledger.occupant = some grant →
      taskFrame grant.handle :: recorded.machine.stack <:+ recorded.step.machine.stack
  /-- It ends with a release that empties the slot if that very task is still there. -/
  ends : ∀ handle below, recorded.machine.Resumes (taskFrame handle) below →
    ∃ grant ∈ recorded.ledger.grants, grant.handle = handle ∧
      (recorded.ledger.occupant = some grant →
        recorded.step.slot = { recorded.slot with holder := none }) ∧
      (recorded.ledger.occupant ≠ some grant → recorded.step.slot = recorded.slot)

theorem Right.begins {recorded : Recorded} (right : recorded.Right)
    (asked : recorded.machine.control = .perform .runTask) (grant : Grant Job)
    (present : recorded.ledger.occupant = some grant) :
    taskFrame grant.handle :: recorded.machine.stack <:+ recorded.step.machine.stack := by
  have held := right.agrees.holder
  rw [present] at held
  obtain ⟨above, frames⟩ := Hardware.frames_runTask held
  have stack : recorded.step.machine.stack =
      recorded.machine.session.state.runTask.frames.map .host ++ recorded.machine.stack := by
    rw [Recorded.step, Machine.step, asked]
    rfl
  rw [stack, frames, List.map_append, List.append_assoc]
  exact List.suffix_append _ _

theorem Right.ends {recorded : Recorded} (right : recorded.Right)
    (few : recorded.ledger.requests < 2 ^ 32) (handle : UInt32)
    (below : List (Monitor.Frame vocabulary))
    (resumes : recorded.machine.Resumes (taskFrame handle) below) :
    ∃ grant ∈ recorded.ledger.grants, grant.handle = handle ∧
      (recorded.ledger.occupant = some grant →
        recorded.step.slot = { recorded.slot with holder := none }) ∧
      (recorded.ledger.occupant ≠ some grant → recorded.step.slot = recorded.slot) := by
  obtain ⟨grant, granted, same⟩ := right.runs handle (resumes.suffix.subset List.mem_cons_self)
  have released : recorded.step.slot = recorded.slot.release handle := by
    obtain ⟨outcome, given, top⟩ := resumes
    rw [Recorded.step, Recorded.slot, Machine.step, given, top]
    rfl
  have releases := right.agrees.releases few handle
  rw [released]
  exact ⟨grant, granted, same, releases.present grant granted same,
    releases.gone grant granted same⟩

/-- As long as fewer requests for a place were made than the counter has numbers, no handle is
granted twice; a place is granted exactly if the slot is empty, and a refusal leaves the task in it;
and giving back a handle, whoever does it, empties the slot exactly if the task granted under it is
still there. The release at the end of a task is one of these, for the handle under which the task
began. -/
theorem handles_tell_tasks_apart (recorded : Recorded) (ofRun : recorded.OfRun)
    (few : recorded.ledger.requests < 2 ^ 32) : recorded.TellsApart := by
  have right := ofRun.right
  exact
    { distinct := right.agrees.nodup few
      holder := right.agrees.holder
      granted := right.agrees.occupant
      places := recorded.slot.places
      releases := right.agrees.releases few
      steps := (served_of_transition (Machine.transition_step host recorded.machine)).slot
      tells := fun id body asked => by
        rw [Recorded.step, slotRequest, Machine.step, asked]
        exact ⟨rfl, rfl⟩
      reaps := fun handle asked => by
        rw [Recorded.step, Recorded.slot, Machine.step, asked]
        rfl
      begins := right.begins
      ends := right.ends few }

/-! ### A task that replaces itself -/

/-- Some steps of running a task that gives back its own handle, places another task and asks for a
third place. -/
def replacing (steps : Nat) : Recorded :=
  let asking : Recorded :=
    ⟨⟨.fresh (.switchedOn 0 0), [],
      .perform (.place 1 [.reap 1, .place 2 [] true, .place 3 [] true] true)⟩, .blank⟩
  let placed := asking.step
  steps.repeat step { placed with machine := { placed.machine with control := .perform .runTask } }

theorem ofRun_replacing (steps : Nat) : (replacing steps).OfRun := by
  induction steps with
  | zero => exact ⟨_, _, rfl, Relation.ReflTransGen.tail (.single .step) (.next _ _ rfl rfl)⟩
  | succ steps inductionHypothesis =>
    obtain ⟨session, control, unused, path⟩ := inductionHypothesis
    exact ⟨session, control, unused, path.tail .step⟩

/-- When the first task has returned, the second one is in the slot, and stays there. -/
theorem handles_tell_tasks_apart_replaced :
    ((replacing 7).ledger.requests = 3 ∧ (replacing 7).ledger.grants.map Grant.handle = [2, 1]) ∧
      (replacing 7).machine.Resumes (taskFrame 1) [] ∧
      (replacing 7).TellsApart ∧ (replacing 8).slot = (replacing 7).slot ∧
      (replacing 8).slot.holder = some (2, .body 2 []) := by
  have resumes : (replacing 7).machine.Resumes (taskFrame 1) [] := ⟨.done, rfl, rfl⟩
  have tells := handles_tell_tasks_apart (replacing 7) (ofRun_replacing 7) (by decide)
  obtain ⟨grant, granted, same, -, gone⟩ := tells.ends 1 [] resumes
  have kept : (replacing 8).slot = (replacing 7).slot := by
    refine gone fun present => ?_
    cases present
    exact absurd same (by decide)
  exact ⟨⟨rfl, rfl⟩, resumes, tells, kept, rfl⟩

end Recorded

end BoardSupport.Board
