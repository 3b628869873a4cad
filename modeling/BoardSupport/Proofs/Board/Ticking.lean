/-
This file proves what a step of the board does to its clock. Ticks come with the
wake-ups of the board and with the operation that delivers some, and the idle
counter takes part in them while a delay waits. `passes_of_transition` says both of
every step, as long as the counters are not set by hand and no delay begins while
another one waits.
-/

import BoardSupport.Board.Host
import BoardSupport.Proofs.Monitor.Transition

namespace BoardSupport.Board

open Monitor (Host Machine Outcome Plan Session Transition)

/-! ### The clock -/

namespace Clock

/-- So many ticks have come since an earlier clock. The idle counter took part in them if the board
is idle now. -/
structure Passes (before : Clock) (delivered : Nat) (after : Clock) : Prop where
  ticks : after.ticks = before.ticks + .ofNat delivered
  idleTicks : after.idleTicks = before.idleTicks + .ofNat (if after.idle then delivered else 0)

theorem passes_zero {before after : Clock} (ticks : after.ticks = before.ticks)
    (idleTicks : after.idleTicks = before.idleTicks) : before.Passes 0 after where
  ticks := by rw [ticks]; exact (UInt32.add_zero _).symm
  idleTicks := by rw [idleTicks, ite_self]; exact (UInt32.add_zero _).symm

theorem passes_tick (clock : Clock) : clock.Passes 1 clock.tick where
  ticks := rfl
  idleTicks := by
    rw [tick_idle, tick]
    cases clock.idle with
    | true => rfl
    | false => exact (UInt32.add_zero _).symm

theorem passes_ticked (clock : Clock) (count : Nat) :
    clock.Passes count (clock.ticked count) ∧ (clock.ticked count).idle = clock.idle := by
  induction count with
  | zero => exact ⟨passes_zero rfl rfl, rfl⟩
  | succ count inductionHypothesis =>
    obtain ⟨passes, idle⟩ := inductionHypothesis
    have last := passes_tick (clock.ticked count)
    have more : clock.ticked (count + 1) = (clock.ticked count).tick := rfl
    rw [more]
    refine ⟨⟨?_, ?_⟩, by rw [tick_idle, idle]⟩
    · rw [last.ticks, passes.ticks, UInt32.ofNat_add, UInt32.add_assoc]
    · rw [last.idleTicks, passes.idleTicks, tick_idle, idle]
      cases clock.idle with
      | true => rw [UInt32.add_assoc, ← UInt32.ofNat_add]; rfl
      | false => exact UInt32.add_zero _

end Clock

/-! ### Delays that wait -/

/-- Whether a frame is a delay that waits. -/
def waitsInDelay : Monitor.Frame vocabulary → Bool
  | .host (.delaying _ _) => true
  | _ => false

def delays (stack : List (Monitor.Frame vocabulary)) : Nat := stack.countP waitsInDelay

theorem delays_cons (frame : Monitor.Frame vocabulary) (stack : List (Monitor.Frame vocabulary)) :
    delays (frame :: stack) = delays stack + if waitsInDelay frame then 1 else 0 :=
  List.countP_cons

theorem delays_append (above below : List (Monitor.Frame vocabulary)) :
    delays (above ++ below) = delays above + delays below := List.countP_append

/-! ### What the plans of the board do to its clock -/

/-- The ticks that an operation delivers without waking up the board. -/
def Operation.ticks : Operation → Nat
  | .tick count => count
  | _ => 0

namespace Hardware

/-- A plan of the board keeps its clock: the ticks that come are those of an operation and one for
every wake-up, and afterwards the board is idle exactly if a delay waits, in the plan or among the
frames below it. -/
structure KeepsClock (hardware : Hardware) (waiting ticks : Nat) (plan : Plan vocabulary) :
    Prop where
  passes : hardware.clock.Passes (ticks + (plan.state.wakeUps - hardware.wakeUps)) plan.state.clock
  balanced : delays (plan.frames.map .host) + waiting = if plan.state.clock.idle then 1 else 0

theorem keepsClock_of_still {hardware : Hardware} {waiting : Nat} {plan : Plan vocabulary}
    (balanced : waiting = if hardware.clock.idle then 1 else 0)
    (clock : plan.state.clock = hardware.clock) (wakeUps : plan.state.wakeUps = hardware.wakeUps)
    (undelayed : delays (plan.frames.map .host) = 0) : hardware.KeepsClock waiting 0 plan where
  passes := by
    rw [clock, wakeUps, Nat.sub_self]
    exact Clock.passes_zero rfl rfl
  balanced := by rw [clock, undelayed, Nat.zero_add, balanced]

theorem keepsClock_before {hardware : Hardware} {waiting ticks : Nat} {plan : Plan vocabulary}
    (frame : Frame)
    (keeps :
      hardware.KeepsClock (waiting + if waitsInDelay (.host frame) then 1 else 0) ticks plan) :
    hardware.KeepsClock waiting ticks (before plan frame) where
  passes := keeps.passes
  balanced := by
    have frames : (before plan frame).frames.map Monitor.Frame.host =
        plan.frames.map .host ++ [.host frame] := List.map_append
    have last : delays [.host frame] = if waitsInDelay (.host frame) then 1 else 0 := by
      rw [delays_cons]
      exact Nat.zero_add _
    rw [frames, delays_append, last, Nat.add_assoc, Nat.add_comm _ waiting]
    exact keeps.balanced

theorem delays_carryOut (hardware : Hardware) (frame : List Operation → Frame)
    (undelayed : ∀ rest, waitsInDelay (.host (frame rest)) = false) (operations : List Operation) :
    delays ((hardware.carryOut frame operations).frames.map .host) = 0 := by
  cases operations with
  | nil => rfl
  | cons operation rest =>
    show delays [.host (frame rest)] = 0
    rw [delays_cons, undelayed]
    rfl

theorem carryOut_state (hardware : Hardware) (frame : List Operation → Frame)
    (operations : List Operation) : (hardware.carryOut frame operations).state = hardware := by
  cases operations <;> rfl

/-- Sleeping takes until the next tick, unless the board may sleep no more. -/
theorem keepsClock_sleep {hardware : Hardware} {waiting : Nat}
    (balanced : waiting = if hardware.clock.idle then 1 else 0) :
    hardware.KeepsClock waiting 0 hardware.sleep := by
  unfold sleep
  split
  · constructor
    · rw [carryOut_state]
      show hardware.clock.Passes (0 + (hardware.wakeUps + 1 - hardware.wakeUps)) hardware.clock.tick
      rw [Nat.zero_add, Nat.add_sub_cancel_left]
      exact Clock.passes_tick hardware.clock
    · rw [carryOut_state, delays_carryOut _ _ (fun _ => rfl), Nat.zero_add]
      exact balanced
  · exact keepsClock_of_still balanced rfl rfl rfl

/-- A delay that waits ends, or it sleeps and goes on waiting. -/
theorem keepsClock_continueDelay (hardware : Hardware) (start span : UInt32)
    (idle : hardware.clock.idle = true) :
    hardware.KeepsClock 0 0 (hardware.continueDelay start span) := by
  unfold continueDelay
  split
  · exact keepsClock_before _ (keepsClock_sleep (by rw [idle]; rfl))
  · constructor
    · show hardware.clock.Passes (0 + (hardware.wakeUps - hardware.wakeUps)) _
      rw [Nat.sub_self]
      exact Clock.passes_zero rfl rfl
    · rfl

/-- A delay begins where none waits. -/
theorem keepsClock_delay (hardware : Hardware) (milliseconds : UInt32) :
    hardware.KeepsClock 0 0 (hardware.delay milliseconds) :=
  have keeps := keepsClock_continueDelay
    { hardware with clock := { hardware.clock with idle := true } }
    hardware.clock.ticks (Clock.ticksOf milliseconds) rfl
  ⟨⟨keeps.passes.ticks, keeps.passes.idleTicks⟩, keeps.balanced⟩

theorem keepsClock_carryOut {hardware : Hardware} {waiting : Nat} {plan : Plan vocabulary}
    (frame : List Operation → Frame) (operations : List Operation)
    (undelayed : ∀ rest, waitsInDelay (.host (frame rest)) = false)
    (balanced : waiting = if hardware.clock.idle then 1 else 0)
    (state : plan.state = (hardware.carryOut frame operations).state)
    (frames : plan.frames = (hardware.carryOut frame operations).frames) :
    hardware.KeepsClock waiting 0 plan := by
  have same : plan.state = hardware := by rw [state, carryOut_state]
  exact keepsClock_of_still balanced (by rw [same]) (by rw [same])
    (by rw [frames]; exact delays_carryOut hardware frame undelayed operations)

theorem keepsClock_runTask {hardware : Hardware} {waiting : Nat}
    (balanced : waiting = if hardware.clock.idle then 1 else 0) :
    hardware.KeepsClock waiting 0 hardware.runTask := by
  unfold runTask
  split
  · exact keepsClock_of_still balanced rfl rfl rfl
  · exact keepsClock_of_still balanced rfl rfl rfl
  · rename_i handle id operations _
    exact keepsClock_before _
      (keepsClock_carryOut (.job id) operations (fun _ => rfl) balanced rfl rfl)

/-- Carrying out an operation, other than setting the counters by hand or delaying within a
delay. -/
theorem keepsClock_perform {hardware : Hardware} {waiting : Nat} (operation : Operation)
    (balanced : waiting = if hardware.clock.idle then 1 else 0)
    (unset : ∀ counters, operation ≠ .preset counters)
    (unnested : ∀ milliseconds, operation = .delay milliseconds → waiting = 0) :
    hardware.KeepsClock waiting operation.ticks (hardware.perform operation) := by
  cases operation with
  | preset counters => exact absurd rfl (unset counters)
  | tick count =>
    obtain ⟨passes, idle⟩ := Clock.passes_ticked hardware.clock count
    constructor
    · show hardware.clock.Passes (count + (hardware.wakeUps - hardware.wakeUps)) _
      rw [Nat.sub_self]
      exact passes
    · show 0 + waiting = if (hardware.clock.ticked count).idle then 1 else 0
      rw [idle, Nat.zero_add, balanced]
  | delay milliseconds =>
    rw [unnested milliseconds rfl]
    exact keepsClock_delay hardware milliseconds
  | runTask => exact keepsClock_runTask balanced
  | _ => exact keepsClock_of_still balanced rfl rfl rfl

theorem keepsClock_resume {hardware : Hardware} {waiting : Nat} (frame : Frame)
    (outcome : Outcome Value)
    (balanced : (waiting + if waitsInDelay (.host frame) then 1 else 0) =
      if hardware.clock.idle then 1 else 0) :
    hardware.KeepsClock waiting 0 (hardware.resume frame outcome) := by
  cases frame with
  | delaying start span =>
    have split : waiting = 0 ∧ hardware.clock.idle = true := by
      cases idle : hardware.clock.idle with
      | true =>
        rw [idle] at balanced
        exact ⟨Nat.succ.inj balanced, rfl⟩
      | false =>
        rw [idle] at balanced
        cases balanced
    rw [split.1]
    exact keepsClock_continueDelay hardware start span split.2
  | interrupt wakeUp rest =>
    exact keepsClock_carryOut (.interrupt wakeUp) rest (fun _ => rfl) balanced rfl rfl
  | job id rest => exact keepsClock_carryOut (.job id) rest (fun _ => rfl) balanced rfl rfl
  | running handle => exact keepsClock_of_still balanced rfl rfl rfl
  | mainLoop =>
    simp only [resume]
    split
    · exact keepsClock_before _ (keepsClock_sleep balanced)
    · exact keepsClock_of_still balanced rfl rfl rfl

end Hardware

/-! ### What a step does to the clock -/

/-- The ticks that the next step delivers without waking up the board. -/
def commandedTicks (machine : Machine vocabulary) : Nat :=
  match machine.control with
  | .perform operation => operation.ticks
  | _ => 0

theorem commandedTicks_of_ended {machine : Machine vocabulary}
    (ended : machine.progress ≠ .underWay) : commandedTicks machine = 0 := by
  obtain ⟨session, stack, control⟩ := machine
  cases control with
  | perform operation => exact absurd rfl ended
  | _ => rfl

/-- The ticks that are delivered from one configuration to the next: those of an operation, and one
for every wake-up. -/
def deliveredTicks (before after : Machine vocabulary) : Nat :=
  commandedTicks before + (after.session.state.wakeUps - before.session.state.wakeUps)

/-- The board is idle exactly if a delay waits, and at most one does. -/
def Balanced (machine : Machine vocabulary) : Prop :=
  delays machine.stack = if machine.session.state.clock.idle then 1 else 0

def setsCounters (machine : Machine vocabulary) : Bool :=
  match machine.control with
  | .perform (.preset _) => true
  | _ => false

/-- Whether the next step begins a delay, by an operation or by a pause of the sampling task. -/
def beginsDelay (machine : Machine vocabulary) : Bool :=
  match machine.control, machine.stack with
  | .perform (.delay _), _ => true
  | .call .runTask, _ => machine.session.monitor.shouldRun
  | .deliver _, .sampling true _ :: _ => machine.session.monitor.shouldRun
  | _, _ => false

/-- The board's clock is kept from one configuration to the next. -/
structure ClockKept (before after : Machine vocabulary) : Prop where
  passes : before.session.state.clock.Passes (deliveredTicks before after) after.session.state.clock
  balanced : Balanced after

theorem clockKept_of_still {machine next : Machine vocabulary} (balanced : Balanced machine)
    (uncommanded : commandedTicks machine = 0)
    (clock : next.session.state.clock = machine.session.state.clock)
    (wakeUps : next.session.state.wakeUps = machine.session.state.wakeUps)
    (waiting : delays next.stack = delays machine.stack) : ClockKept machine next where
  passes := by
    rw [deliveredTicks, uncommanded, clock, wakeUps, Nat.sub_self]
    exact Clock.passes_zero rfl rfl
  balanced := by rw [Balanced, waiting, clock]; exact balanced

theorem clockKept_of_follow {machine : Machine vocabulary} (middle : Machine vocabulary)
    {plan : Plan vocabulary}
    (keeps : machine.session.state.KeepsClock (delays middle.stack) (commandedTicks machine) plan) :
    ClockKept machine (middle.follow plan) where
  passes := keeps.passes
  balanced := (delays_append _ _).trans keeps.balanced

/-- Switching the monitor changes nothing on the board but its slot. -/
theorem switch_state (session : Session vocabulary) (on : Bool) :
    ∃ slot, (session.switch host on).state = { session.state with slot } := by
  cases on with
  | true =>
    show ∃ slot, (session.start host).2.state = { session.state with slot }
    unfold Session.start
    split
    · exact ⟨_, rfl⟩
    · simp only
      split <;> exact ⟨_, rfl⟩
  | false =>
    show ∃ slot, (session.stop host).state = { session.state with slot }
    unfold Session.stop
    split
    · simp only
      split <;> exact ⟨_, rfl⟩
    · exact ⟨_, rfl⟩

/-- A pause of the sampling task that begins where no delay waits. -/
theorem clockKept_beginDelay (machine middle : Machine vocabulary)
    (state : middle.session.state = machine.session.state) (undelayed : delays middle.stack = 0)
    (uncommanded : commandedTicks machine = 0) :
    ClockKept machine (middle.beginDelay host) := by
  refine clockKept_of_follow
    { middle with
      session := middle.session.record (.delayed Settings.sampleDelay)
      stack := .delaying :: middle.stack } ?_
  rw [delays_cons, undelayed, uncommanded, ← state]
  exact Hardware.keepsClock_delay middle.session.state Settings.sampleDelay

/-- Every step keeps the clock, unless it sets the counters by hand or begins a delay while another
one waits. -/
theorem clockKept_of_transition {machine next : Machine vocabulary}
    (taken : Transition host machine next) (balanced : Balanced machine)
    (unset : setsCounters machine = false)
    (unnested : beginsDelay machine = true → delays machine.stack = 0) :
    ClockKept machine next := by
  cases taken with
  | rest ended =>
    exact clockKept_of_still balanced (commandedTicks_of_ended ended) rfl rfl rfl
  | switch on outcome asked =>
    obtain ⟨slot, state⟩ := switch_state machine.session on
    obtain ⟨call, called⟩ := Machine.call_of_switching asked
    refine clockKept_of_still balanced (by rw [commandedTicks, called]) ?_ ?_ rfl
    · show (machine.session.switch host on).state.clock = _
      rw [state]
    · show (machine.session.switch host on).state.wakeUps = _
      rw [state]
  | answer call outcome asked | decline asked =>
    exact clockKept_of_still balanced (by rw [commandedTicks, asked]) rfl rfl rfl
  | enter asked wanted =>
    exact clockKept_beginDelay machine machine rfl
      (unnested (by rw [beginsDelay, asked]; exact wanted))
      (by rw [commandedTicks, asked])
  | measure asked =>
    exact clockKept_of_still balanced (by rw [commandedTicks, asked]) rfl rfl rfl
  | wake rest outcome given top wanted =>
    refine clockKept_of_still balanced (by rw [commandedTicks, given]) rfl rfl ?_
    rw [top]
    rfl
  | leave frame rest outcome given top task =>
    refine clockKept_of_still balanced (by rw [commandedTicks, given]) rfl rfl ?_
    rw [top]
    cases frame with
    | host frame => cases task
    | _ => rfl
  | publish reading rest outcome given top wanted =>
    have undelayed : delays machine.stack = 0 :=
      unnested (by rw [beginsDelay, given, top]; exact wanted)
    rw [top] at undelayed
    exact clockKept_beginDelay machine ({ machine with stack := rest }.store true reading).2 rfl
      undelayed (by rw [commandedTicks, given])
  | conclude reading rest outcome given top =>
    refine clockKept_of_still balanced (by rw [commandedTicks, given]) rfl rfl ?_
    rw [top]
    rfl
  | perform operation asked =>
    refine clockKept_of_follow machine ?_
    rw [commandedTicks, asked]
    refine Hardware.keepsClock_perform operation balanced ?_ ?_
    · intro counters same
      rw [setsCounters, asked, same] at unset
      cases unset
    · exact fun milliseconds same => unnested (by rw [beginsDelay, asked, same])
  | resume frame rest outcome given top =>
    refine clockKept_of_follow { machine with stack := rest } ?_
    rw [commandedTicks, given]
    refine Hardware.keepsClock_resume frame outcome ?_
    rw [← delays_cons, ← top]
    exact balanced

end BoardSupport.Board
