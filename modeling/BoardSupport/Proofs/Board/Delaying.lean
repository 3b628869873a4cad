/-
This file counts the sleeps of a delay. A delay compares the ticks since its begin with
the ticks that it is to last, and sleeps until the next tick as long as they are fewer.
The difference is taken modulo the width of the counter, so that it is the number of
sleeps so far wherever the counter stood at first, and it never exceeds what it is
compared with. What the interrupts of a wake-up do may take any number of steps; all
that counts is that it comes back to the delay and has left the clock alone.
-/

import BoardSupport.Proofs.Board.Ticking

namespace BoardSupport.Board

open Monitor (Host Machine Outcome Plan Session Transition)

/-! ### Ticks and milliseconds -/

namespace Clock

/-- A tick lasts one millisecond. -/
theorem ticksOf_eq (milliseconds : UInt32) : ticksOf milliseconds = milliseconds := by
  have narrow : milliseconds.toNat < 2 ^ 32 := milliseconds.toNat_lt
  have rate : Settings.tickRate.toUInt64.toNat = 1000 := rfl
  have thousand : (1000 : UInt64).toNat = 1000 := rfl
  rw [ticksOf, ← UInt32.toNat_inj, UInt64.toNat_toUInt32, UInt64.toNat_div, UInt64.toNat_mul,
    UInt32.toNat_toUInt64, rate, thousand, Nat.mod_eq_of_lt (by omega : _ * 1000 < 2 ^ 64),
    Nat.mul_div_cancel _ (by decide), Nat.mod_eq_of_lt narrow]

/-- After so many ticks since its begin a delay still lasts if it was to last longer, wherever the
counter stood at its begin. -/
theorem waiting_iff {clock : Clock} {start span : UInt32} {passed : Nat}
    (ticks : clock.ticks = start + .ofNat passed) (within : passed ≤ span.toNat) :
    clock.waiting start span = true ↔ passed < span.toNat := by
  have narrow : passed < UInt32.size := Nat.lt_of_le_of_lt within span.toNat_lt
  rw [waiting, ticks, UInt32.add_comm, UInt32.add_sub_cancel, decide_eq_true_iff,
    UInt32.lt_iff_toNat_lt, UInt32.toNat_ofNat_of_lt' narrow]

end Clock

/-! ### Steps that leave the clock alone -/

/-- Whether the next step goes on with a delay that waits. -/
def continuesDelay (machine : Machine vocabulary) : Bool :=
  match machine.control, machine.stack with
  | .deliver _, frame :: _ => waitsInDelay frame
  | _, _ => false

/-- The next step leaves the clock alone: it neither begins a delay nor goes on with one, delivers
no tick, and does not set the counters by hand. -/
structure LeavesClock (machine : Machine vocabulary) : Prop where
  begins : beginsDelay machine = false
  continues : continuesDelay machine = false
  ticks : deliveredTicks machine (machine.step host) = 0
  sets : setsCounters machine = false

/-- Nothing has changed in what decides over sleeping. -/
structure Hardware.Rested (hardware later : Hardware) : Prop where
  clock : later.clock = hardware.clock
  wakeUps : later.wakeUps = hardware.wakeUps
  sleepLimit : later.sleepLimit = hardware.sleepLimit
  interrupts : later.interrupts = hardware.interrupts

theorem Hardware.Rested.refl (hardware : Hardware) : hardware.Rested hardware :=
  ⟨rfl, rfl, rfl, rfl⟩

theorem Hardware.Rested.trans {first middle last : Hardware} (earlier : first.Rested middle)
    (later : middle.Rested last) : first.Rested last :=
  ⟨later.clock.trans earlier.clock, later.wakeUps.trans earlier.wakeUps,
    later.sleepLimit.trans earlier.sleepLimit, later.interrupts.trans earlier.interrupts⟩

theorem Hardware.rested_slot (hardware : Hardware) (slot : TaskSlot Job) :
    hardware.Rested { hardware with slot } := ⟨rfl, rfl, rfl, rfl⟩

theorem rested_switch (session : Session vocabulary) (on : Bool) :
    session.state.Rested (session.switch host on).state := by
  obtain ⟨slot, state⟩ := switch_state session on
  rw [state]
  exact session.state.rested_slot slot

theorem Hardware.rested_runTask (hardware : Hardware) :
    hardware.Rested hardware.runTask.state := by
  unfold runTask
  split
  · exact .refl _
  · exact .refl _
  · show hardware.Rested (hardware.carryOut (.job _) _).state
    rw [carryOut_state]
    exact .refl _

/-- Sleeping leaves everything as it is only where the board may sleep no more. -/
theorem Hardware.rested_sleep {hardware : Hardware}
    (unslept : hardware.sleep.state.wakeUps - hardware.wakeUps = 0) :
    hardware.Rested hardware.sleep.state := by
  unfold sleep at unslept ⊢
  split
  · rw [if_pos ‹_›, carryOut_state] at unslept
    exact absurd ((Nat.add_sub_cancel_left _ _).symm.trans unslept) (by decide)
  · exact .refl _

theorem rested_perform {machine : Machine vocabulary} (operation : Operation)
    (asked : machine.control = .perform operation) (leaves : LeavesClock machine) :
    machine.session.state.Rested (machine.session.state.perform operation).state := by
  have begins := leaves.begins
  have sets := leaves.sets
  have commanded : operation.ticks = 0 := by
    have ticks := leaves.ticks
    rw [deliveredTicks, commandedTicks, asked] at ticks
    exact (Nat.add_eq_zero_iff.mp ticks).1
  rw [beginsDelay, asked] at begins
  rw [setsCounters, asked] at sets
  cases operation with
  | preset => cases sets
  | delay => cases begins
  | tick count =>
    cases commanded
    exact .refl _
  | runTask => exact machine.session.state.rested_runTask
  | _ => exact ⟨rfl, rfl, rfl, rfl⟩

theorem rested_resume {machine : Machine vocabulary} {frame : Frame} {outcome : Outcome Value}
    {rest : List (Monitor.Frame vocabulary)} (given : machine.control = .deliver outcome)
    (top : machine.stack = .host frame :: rest) (leaves : LeavesClock machine) :
    machine.session.state.Rested (machine.session.state.resume frame outcome).state := by
  obtain ⟨session, stack, control⟩ := machine
  cases given
  cases top
  have continues := leaves.continues
  have unslept : (session.state.resume frame outcome).state.wakeUps - session.state.wakeUps = 0 :=
    (Nat.add_eq_zero_iff.mp leaves.ticks).2
  cases frame with
  | delaying start span => cases continues
  | interrupt wakeUp operations =>
    show session.state.Rested (session.state.carryOut (.interrupt wakeUp) operations).state
    rw [Hardware.carryOut_state]
    exact .refl _
  | job id operations =>
    show session.state.Rested (session.state.carryOut (.job id) operations).state
    rw [Hardware.carryOut_state]
    exact .refl _
  | running handle => exact session.state.rested_slot _
  | mainLoop =>
    simp only [Hardware.resume] at unslept ⊢
    split at unslept
    · exact Hardware.rested_sleep unslept
    · exact .refl _

theorem LeavesClock.rested {machine : Machine vocabulary} (leaves : LeavesClock machine) :
    machine.session.state.Rested (machine.step host).session.state := by
  have taken := Machine.transition_step host machine
  have begins := leaves.begins
  generalize machine.step host = next at taken
  cases taken with
  | switch on outcome asked => exact rested_switch machine.session on
  | enter asked wanted =>
    rw [beginsDelay, asked, wanted] at begins
    cases begins
  | publish reading rest outcome given top wanted =>
    rw [beginsDelay, given, top, wanted] at begins
    cases begins
  | perform operation asked => exact rested_perform operation asked leaves
  | resume frame rest outcome given top => exact rested_resume given top leaves
  | _ => exact .refl _

/-! ### A delay and its wake-ups -/

/-- A run from one configuration to another through configurations of some kind. -/
def Through (kind : Machine vocabulary → Prop) : Machine vocabulary → Machine vocabulary → Prop :=
  Relation.ReflTransGen fun before after => kind before ∧ after = before.step host

/-- A delay of `span` ticks that began at tick `start`, above the frames that wait for its end. -/
structure Delay where
  start : UInt32
  span : UInt32
  below : List (Monitor.Frame vocabulary)

namespace Delay

/-- The delay that begins in a configuration. -/
def beginning (machine : Machine vocabulary) (milliseconds : UInt32) : Delay :=
  ⟨machine.session.state.clock.ticks, Clock.ticksOf milliseconds, machine.stack⟩

def frame (delay : Delay) : Monitor.Frame vocabulary := .host (.delaying delay.start delay.span)

def Waits (delay : Delay) (machine : Machine vocabulary) : Prop :=
  delay.frame :: delay.below <:+ machine.stack

/-- What a wake-up sets off comes back to the delay, and leaves the clock alone on the way. -/
structure ComesBack (delay : Delay) (woken later : Machine vocabulary) : Prop where
  path : Through LeavesClock woken later
  resumes : later.Resumes delay.frame delay.below

/-- The wake-ups in the course of a delay: the one of its first sleep, and after each the one of the
next sleep, if there is a next one. -/
inductive WakesUp (delay : Delay) (begun : Machine vocabulary) : Machine vocabulary → Prop
  | first (waits : delay.Waits begun) (awake : begun.control ≠ .abandon) : WakesUp delay begun begun
  | again {woken later : Machine vocabulary} (earlier : WakesUp delay begun woken)
      (back : delay.ComesBack woken later) (waits : delay.Waits (later.step host))
      (awake : (later.step host).control ≠ .abandon) : WakesUp delay begun (later.step host)

/-- What the wake-ups of a delay set off does not delay in its turn, nor does it touch the clock
otherwise, and it comes to its end. -/
def Undisturbed (delay : Delay) (begun : Machine vocabulary) : Prop :=
  ∀ woken, delay.WakesUp begun woken → ∃ later, delay.ComesBack woken later

theorem step_of_resumes {delay : Delay} {machine : Machine vocabulary}
    (resumes : machine.Resumes delay.frame delay.below) :
    machine.step host = { machine with stack := delay.below }.follow
      (machine.session.state.continueDelay delay.start delay.span) := by
  obtain ⟨session, stack, control⟩ := machine
  obtain ⟨outcome, given, top⟩ := resumes
  cases given
  cases top
  rfl

theorem waits_step {delay : Delay} {machine : Machine vocabulary} (waits : delay.Waits machine)
    (leaves : LeavesClock machine) : delay.Waits (machine.step host) := by
  rcases Machine.suffix_or_resumes (Machine.transition_step host machine) waits with
    still | ⟨outcome, given, top⟩
  · exact still
  · have continues := leaves.continues
    rw [continuesDelay, given, top] at continues
    cases continues

/-- Coming back takes place while the delay waits, and finds the board as it was. -/
theorem ComesBack.rested {delay : Delay} {woken later : Machine vocabulary}
    (back : delay.ComesBack woken later) (waits : delay.Waits woken) :
    woken.session.state.Rested later.session.state ∧ Through delay.Waits woken later := by
  suffices kept : delay.Waits later ∧ woken.session.state.Rested later.session.state ∧
      Through delay.Waits woken later from kept.2
  obtain ⟨path, -⟩ := back
  induction path with
  | refl => exact ⟨waits, .refl _, .refl⟩
  | @tail before after _ taken inductionHypothesis =>
    obtain ⟨leaves, rfl⟩ := taken
    obtain ⟨waitsBefore, rested, through⟩ := inductionHypothesis
    exact ⟨waits_step waitsBefore leaves, rested.trans leaves.rested,
      through.tail ⟨waitsBefore, rfl⟩⟩

end Delay

/-! ### Counting the sleeps -/

/-- The board waits in a delay and has slept so many times since the delay began. -/
structure Hardware.Slept (origin : Hardware) (count : Nat) (hardware : Hardware) : Prop where
  clock : hardware.clock =
    ⟨origin.clock.ticks + .ofNat count, origin.clock.idleTicks + .ofNat count, true⟩
  wakeUps : hardware.wakeUps = origin.wakeUps + count
  sleepLimit : hardware.sleepLimit = origin.sleepLimit

namespace Hardware

theorem Slept.rested {origin hardware later : Hardware} {count : Nat}
    (slept : origin.Slept count hardware) (rested : hardware.Rested later) :
    origin.Slept count later :=
  ⟨rested.clock.trans slept.clock, rested.wakeUps.trans slept.wakeUps,
    rested.sleepLimit.trans slept.sleepLimit⟩

theorem slept_zero (origin : Hardware) :
    origin.Slept 0 { origin with clock := { origin.clock with idle := true } } where
  clock := by
    show _ = (⟨origin.clock.ticks + 0, origin.clock.idleTicks + 0, true⟩ : Clock)
    rw [UInt32.add_zero, UInt32.add_zero]
  wakeUps := rfl
  sleepLimit := rfl

theorem Slept.sleep {origin hardware : Hardware} {count : Nat}
    (slept : origin.Slept count hardware) (allowed : origin.wakeUps + count < origin.sleepLimit) :
    origin.Slept (count + 1) hardware.sleep.state ∧ hardware.sleep.next ≠ .abandon := by
  have awake : ∀ (woken : Hardware) (frame : List Operation → Frame) (operations : List Operation),
      (woken.carryOut frame operations).next ≠ .abandon := by
    intro woken frame operations
    cases operations <;> exact nofun
  rw [Hardware.sleep, if_pos (by rw [slept.wakeUps, slept.sleepLimit]; exact allowed)]
  refine ⟨?_, awake _ _ _⟩
  rw [carryOut_state]
  refine ⟨?_, ?_, slept.sleepLimit⟩
  · show hardware.clock.tick = _
    rw [slept.clock, Clock.tick, UInt32.ofNat_add, ← UInt32.add_assoc, ← UInt32.add_assoc]
    rfl
  · show hardware.wakeUps + 1 = _
    rw [slept.wakeUps, Nat.add_assoc]

/-- A delay that has not slept often enough sleeps once more. -/
theorem Slept.continues {origin hardware : Hardware} {count : Nat} {span : UInt32}
    (slept : origin.Slept count hardware) (short : count < span.toNat) :
    hardware.continueDelay origin.clock.ticks span =
      before hardware.sleep (.delaying origin.clock.ticks span) := by
  have waiting : hardware.clock.waiting origin.clock.ticks span = true :=
    (Clock.waiting_iff (by rw [slept.clock]) (Nat.le_of_lt short)).mpr short
  rw [continueDelay, if_pos waiting]

/-- A delay that has slept often enough is over. -/
theorem Slept.ends {origin hardware : Hardware} {span : UInt32}
    (slept : origin.Slept span.toNat hardware) :
    hardware.continueDelay origin.clock.ticks span =
      { hardware with
        clock := ⟨origin.clock.ticks + span, origin.clock.idleTicks + span, false⟩ }.answer
        .done := by
  have expired : ¬ hardware.clock.waiting origin.clock.ticks span = true := by
    rw [Clock.waiting_iff (by rw [slept.clock]) (Nat.le_refl _)]
    exact Nat.lt_irrefl _
  rw [continueDelay, if_neg expired, slept.clock, UInt32.ofNat_toNat]

/-- A delay of no time is over without a sleep. -/
theorem delay_zero (hardware : Hardware) :
    hardware.delay 0 =
      { hardware with clock := { hardware.clock with idle := false } }.answer .done := by
  have slept : hardware.Slept (0 : UInt32).toNat _ := hardware.slept_zero
  rw [delay, Clock.ticksOf_eq, slept.ends, UInt32.add_zero, UInt32.add_zero]

end Hardware

namespace Delay

/-- The delay is over after exactly its ticks, and until then it waits. -/
structure Ends (delay : Delay) (origin : Hardware) (machine ended : Machine vocabulary) : Prop where
  waits : Through delay.Waits machine ended
  stack : ended.stack = delay.below
  control : ended.control = .deliver .done
  wakeUps : ended.session.state.wakeUps = origin.wakeUps + delay.span.toNat
  clock : ended.session.state.clock =
    ⟨origin.clock.ticks + delay.span, origin.clock.idleTicks + delay.span, false⟩

/-- A delay that has slept so many times, and is to sleep so many times more, comes to its end. -/
theorem Undisturbed.ends {delay : Delay} {origin : Hardware} {begun : Machine vocabulary}
    (undisturbed : delay.Undisturbed begun) (start : delay.start = origin.clock.ticks)
    (allowed : origin.wakeUps + delay.span.toNat ≤ origin.sleepLimit) (count left : Nat)
    (all : count + left = delay.span.toNat) (machine : Machine vocabulary) (hardware : Hardware)
    (top : machine.stack = delay.below) (slept : origin.Slept count hardware)
    (wakesUp : ∀ next, next = machine.follow (hardware.continueDelay delay.start delay.span) →
      delay.Waits next → next.control ≠ .abandon → delay.WakesUp begun next) :
    ∃ ended, delay.Ends origin
      (machine.follow (hardware.continueDelay delay.start delay.span)) ended := by
  induction left generalizing count machine hardware with
  | zero =>
    cases all
    rw [start, slept.ends]
    exact ⟨_, .refl, top, rfl, slept.wakeUps, rfl⟩
  | succ left inductionHypothesis =>
    have short : count < delay.span.toNat := by omega
    obtain ⟨sleptMore, awake⟩ := slept.sleep (by omega)
    have sleeps : hardware.continueDelay delay.start delay.span =
        Hardware.before hardware.sleep (.delaying delay.start delay.span) := by
      rw [start]
      exact slept.continues short
    generalize next_eq : machine.follow (hardware.continueDelay delay.start delay.span) = next
    have state : next.session.state = hardware.sleep.state := by
      rw [← next_eq, sleeps]
      rfl
    have waits : delay.Waits next := by
      rw [← next_eq, sleeps]
      refine ⟨hardware.sleep.frames.map .host, ?_⟩
      show _ = (hardware.sleep.frames ++ [_]).map .host ++ machine.stack
      rw [List.map_append, top, List.append_assoc]
      rfl
    have woken := wakesUp next next_eq.symm waits (by rw [← next_eq, sleeps]; exact awake)
    -- The wake-up comes back to the delay, which has slept once more by then.
    obtain ⟨later, back⟩ := undisturbed next woken
    obtain ⟨rested, through⟩ := back.rested waits
    have continued := step_of_resumes back.resumes
    obtain ⟨ended, ends⟩ := inductionHypothesis (count + 1) (by omega)
      { later with stack := delay.below } later.session.state rfl
      ((state ▸ sleptMore).rested rested)
      fun further same waits awake => by
        rw [← continued] at same
        rw [same] at waits awake ⊢
        exact .again woken back waits awake
    rw [← continued] at ends
    have resumed : delay.Waits later := back.resumes.suffix
    exact ⟨ended, (through.tail ⟨resumed, rfl⟩).trans ends.waits, ends.stack, ends.control,
      ends.wakeUps, ends.clock⟩

end Delay

/-- A delay sleeps exactly as often as it lasts milliseconds, wherever the two counters stand at its
begin, if each wake-up delivers one tick and nothing that is done meanwhile delays or touches the
clock in its turn. Until then the delay waits; then both counters have advanced by its
milliseconds, modulo their width, and the board is not idle any more. A delay of zero milliseconds
is over at once. -/
theorem delay_sleeps_exactly (machine : Machine vocabulary) (milliseconds : UInt32) :
    let origin := machine.session.state
    let delay := Delay.beginning machine milliseconds
    let begun := machine.follow (origin.delay milliseconds)
    origin.wakeUps + milliseconds.toNat ≤ origin.sleepLimit →
    delay.Undisturbed begun →
    ∃ ended, Through delay.Waits begun ended ∧
      ended.stack = machine.stack ∧ ended.control = .deliver .done ∧
      ended.session.state.wakeUps = origin.wakeUps + milliseconds.toNat ∧
      ended.session.state.clock =
        ⟨origin.clock.ticks + milliseconds, origin.clock.idleTicks + milliseconds, false⟩ ∧
      (milliseconds = 0 → ended = begun) := by
  intro origin delay begun allowed undisturbed
  have span : delay.span = milliseconds := Clock.ticksOf_eq milliseconds
  obtain ⟨ended, ends⟩ : ∃ ended, delay.Ends origin begun ended :=
    undisturbed.ends rfl (by rwa [span]) 0 delay.span.toNat (Nat.zero_add _) machine _ rfl
      origin.slept_zero fun next same waits awake => by
        cases same
        exact .first waits awake
  refine ⟨ended, ends.waits, ends.stack, ends.control, by rw [ends.wakeUps, span],
    by rw [ends.clock, span], fun zero => ?_⟩
  rcases ends.waits.cases_head with same | ⟨_, ⟨waits, -⟩, -⟩
  · exact same.symm
  · have returned : begun.stack = machine.stack := by
      show (machine.follow (origin.delay milliseconds)).stack = _
      rw [zero, origin.delay_zero]
      rfl
    rw [Delay.Waits, returned] at waits
    exact absurd waits.length_le (Nat.not_succ_le_self _)

/-! ### Interrupts that leave the clock alone -/

/-- The operations that leave the clock alone in whatever state they find the board. -/
def Operation.leavesClock : Operation → Bool
  | .preset _ | .tick _ | .delay _ | .runTask | .mainLoop | .call .runTask => false
  | _ => true

theorem leavesClock_of_call {machine : Machine vocabulary} {call : Monitor.Call}
    (asked : machine.control = .call call) (other : call ≠ .runTask) : LeavesClock machine where
  begins := by
    rw [beginsDelay, asked]
    cases call with
    | runTask => exact absurd rfl other
    | _ => rfl
  continues := by rw [continuesDelay, asked]
  sets := by rw [setsCounters, asked]
  ticks := by
    have taken := Machine.transition_step host machine
    have uncommanded : commandedTicks machine = 0 := by rw [commandedTicks, asked]
    rw [deliveredTicks, uncommanded, Nat.zero_add]
    generalize machine.step host = next at taken ⊢
    cases taken with
    | switch on => rw [(rested_switch machine.session on).wakeUps, Nat.sub_self]
    | rest | answer | decline | measure => exact Nat.sub_self _
    | enter running => exact absurd (Monitor.Control.call.inj (asked.symm.trans running)) other
    | perform operation given => cases asked.symm.trans given
    | wake _ _ given | leave _ _ _ given | publish _ _ _ given | conclude _ _ _ given
    | resume _ _ _ given => cases asked.symm.trans given

/-- Handing an outcome to anything but a delay, if it does not wake up the board. -/
theorem leavesClock_of_deliver {machine : Machine vocabulary} {outcome : Outcome Value}
    {frame : Monitor.Frame vocabulary} {rest : List (Monitor.Frame vocabulary)}
    (given : machine.control = .deliver outcome) (top : machine.stack = frame :: rest)
    (ready : beginsDelay machine = false) (undelayed : waitsInDelay frame = false)
    (asleep : (machine.step host).session.state.wakeUps = machine.session.state.wakeUps) :
    LeavesClock machine where
  begins := ready
  continues := by rw [continuesDelay, given, top]; exact undelayed
  sets := by rw [setsCounters, given]
  ticks := by rw [deliveredTicks, commandedTicks, given, asleep, Nat.sub_self]

/-- A call of the monitor, other than to the body of its task, comes to its outcome. -/
theorem through_call {machine : Machine vocabulary} {call : Monitor.Call}
    (asked : machine.control = .call call) (other : call ≠ .runTask) :
    ∃ session outcome, Through LeavesClock machine ⟨session, machine.stack, .deliver outcome⟩ := by
  have leaves := leavesClock_of_call asked other
  obtain ⟨session, stack, control⟩ := machine
  cases asked
  cases call with
  | runTask => exact absurd rfl other
  | sample =>
    -- Nothing comes between reading the counters and publishing the load.
    let measured := Machine.beginSample host false ⟨session, stack, .call .sample⟩
    have published : LeavesClock measured := leavesClock_of_deliver rfl rfl rfl rfl rfl
    exact ⟨_, _, (Relation.ReflTransGen.single ⟨leaves, rfl⟩).tail ⟨published, rfl⟩⟩
  | _ => exact ⟨_, _, .single ⟨leaves, rfl⟩⟩

theorem through_perform {machine : Machine vocabulary} {operation : Operation}
    (asked : machine.control = .perform operation) (quiet : operation.leavesClock = true) :
    ∃ session outcome, Through LeavesClock machine ⟨session, machine.stack, .deliver outcome⟩ := by
  obtain ⟨session, stack, control⟩ := machine
  cases asked
  have leaves : LeavesClock ⟨session, stack, .perform operation⟩ := by
    refine ⟨?_, rfl, ?_, ?_⟩
    · cases operation with
      | delay => cases quiet
      | _ => rfl
    · show operation.ticks +
        ((session.state.perform operation).state.wakeUps - session.state.wakeUps) = 0
      cases operation with
      | tick | delay | runTask | mainLoop => cases quiet
      | _ => exact (Nat.zero_add _).trans (Nat.sub_self _)
    · cases operation with
      | preset => cases quiet
      | _ => rfl
  cases operation with
  | call call =>
    have other : call ≠ .runTask := by
      rintro rfl
      cases quiet
    obtain ⟨later, outcome, path⟩ := @through_call ⟨session, stack, .call call⟩ call rfl other
    exact ⟨later, outcome, .head ⟨leaves, rfl⟩ path⟩
  | preset | tick | delay | runTask | mainLoop => cases quiet
  | _ => exact ⟨_, _, .single ⟨leaves, rfl⟩⟩

/-- The operations of an interrupt, one after the other. -/
theorem through_carryOut (wakeUp : Nat) (operations : List Operation) (machine : Machine vocabulary)
    (quiet : ∀ operation ∈ operations, operation.leavesClock = true) :
    ∃ session outcome, Through LeavesClock
      (machine.follow (machine.session.state.carryOut (.interrupt wakeUp) operations))
      ⟨session, machine.stack, .deliver outcome⟩ := by
  induction operations generalizing machine with
  | nil => exact ⟨_, _, .refl⟩
  | cons operation rest inductionHypothesis =>
    obtain ⟨first, others⟩ := List.forall_mem_cons.mp quiet
    let performing : Machine vocabulary :=
      ⟨machine.session, .host (.interrupt wakeUp rest) :: machine.stack, .perform operation⟩
    obtain ⟨session, outcome, path⟩ := @through_perform performing operation rfl first
    -- The outcome is noted, and the interrupt goes on with the rest.
    let noted : Machine vocabulary :=
      { machine with session := session.record (.note (.interrupt wakeUp outcome)) }
    have goesOn : Machine.step host
        ⟨session, .host (.interrupt wakeUp rest) :: machine.stack, .deliver outcome⟩ =
        noted.follow (noted.session.state.carryOut (.interrupt wakeUp) rest) := by
      cases rest <;> rfl
    have leaves : LeavesClock
        ⟨session, .host (.interrupt wakeUp rest) :: machine.stack, .deliver outcome⟩ := by
      refine leavesClock_of_deliver rfl rfl rfl rfl ?_
      rw [goesOn]
      cases rest <;> rfl
    obtain ⟨later, last, remaining⟩ := inductionHypothesis noted others
    exact ⟨later, last, (path.tail ⟨leaves, goesOn.symm⟩).trans remaining⟩

namespace Delay

/-- A wake-up of a delay, at which operations of some interrupts that were laid out at first are
carried out. -/
def Interrupted (delay : Delay) (interrupts : List Interrupt) (woken : Machine vocabulary) :
    Prop :=
  woken.session.state.interrupts = interrupts ∧
    ∃ (machine : Machine vocabulary) (wakeUp : Nat) (due : List Interrupt), due ⊆ interrupts ∧
      machine.stack = delay.frame :: delay.below ∧
      woken = machine.follow (machine.session.state.carryOut (.interrupt wakeUp)
        (due.flatMap Interrupt.operations))

theorem interrupted_of_continueDelay {delay : Delay} (machine : Machine vocabulary)
    (hardware : Hardware) (top : machine.stack = delay.below)
    (waits : delay.Waits (machine.follow (hardware.continueDelay delay.start delay.span)))
    (awake : (machine.follow (hardware.continueDelay delay.start delay.span)).control ≠ .abandon) :
    delay.Interrupted hardware.interrupts
      (machine.follow (hardware.continueDelay delay.start delay.span)) := by
  by_cases lasts : hardware.clock.waiting delay.start delay.span = true
  · by_cases allowed : hardware.wakeUps < hardware.sleepLimit
    · let woken : Hardware :=
        { hardware with clock := hardware.clock.tick, wakeUps := hardware.wakeUps + 1 }
      let due := hardware.interrupts.filter (·.wakeUp = woken.wakeUps)
      have sleeps : hardware.sleep =
          woken.carryOut (.interrupt woken.wakeUps) (due.flatMap Interrupt.operations) :=
        if_pos allowed
      rw [Hardware.continueDelay, if_pos lasts, sleeps]
      refine ⟨?_, ⟨{ machine.session with state := woken }, delay.frame :: delay.below,
        machine.control⟩, woken.wakeUps, due, List.filter_sublist.subset, rfl, ?_⟩
      · show (woken.carryOut _ _).state.interrupts = _
        rw [Hardware.carryOut_state]
      · rw [← top]
        cases due.flatMap Interrupt.operations <;> rfl
    · rw [Hardware.continueDelay, if_pos lasts, Hardware.sleep, if_neg allowed] at awake
      exact absurd rfl awake
  · rw [Hardware.continueDelay, if_neg lasts, Waits, ← top] at waits
    exact absurd waits.length_le (Nat.not_succ_le_self _)

theorem WakesUp.waits {delay : Delay} {begun woken : Machine vocabulary}
    (wakesUp : delay.WakesUp begun woken) : delay.Waits woken := by
  cases wakesUp with
  | first waits => exact waits
  | again _ _ waits => exact waits

theorem WakesUp.interrupted {machine woken : Machine vocabulary} {milliseconds : UInt32}
    (wakesUp : (beginning machine milliseconds).WakesUp
      (machine.follow (machine.session.state.delay milliseconds)) woken) :
    (beginning machine milliseconds).Interrupted machine.session.state.interrupts woken := by
  induction wakesUp with
  | first waits awake =>
    exact interrupted_of_continueDelay machine
      { machine.session.state with clock := { machine.session.state.clock with idle := true } } rfl
      waits awake
  | @again woken later earlier back waits awake inductionHypothesis =>
    have rested := (back.rested earlier.waits).1
    rw [step_of_resumes back.resumes] at waits awake ⊢
    have interrupted := interrupted_of_continueDelay
      { later with stack := (beginning machine milliseconds).below } later.session.state rfl
      waits awake
    rwa [rested.interrupts, inductionHypothesis.1] at interrupted

/-- Interrupts that neither delay, run tasks nor touch the clock do not disturb any delay. -/
theorem undisturbed_of_leavesClock (machine : Machine vocabulary) (milliseconds : UInt32)
    (quiet : ∀ operation ∈ machine.session.state.interrupts.flatMap Interrupt.operations,
      operation.leavesClock = true) :
    (beginning machine milliseconds).Undisturbed
      (machine.follow (machine.session.state.delay milliseconds)) := by
  intro woken wakesUp
  obtain ⟨-, interrupted, wakeUp, due, listed, top, rfl⟩ := wakesUp.interrupted
  have quietDue : ∀ operation ∈ due.flatMap Interrupt.operations,
      operation.leavesClock = true := by
    intro operation member
    obtain ⟨interrupt, isDue, carried⟩ := List.mem_flatMap.mp member
    exact quiet operation (List.mem_flatMap.mpr ⟨interrupt, listed isDue, carried⟩)
  obtain ⟨session, outcome, path⟩ :=
    through_carryOut wakeUp (due.flatMap Interrupt.operations) interrupted quietDue
  exact ⟨_, path, outcome, rfl, top⟩

end Delay

/-- A board whose tick counter is about to roll over, in the longest delay that there is. At its
first and at its last wake-up interrupts use the monitor and the slot. -/
def delaying : Machine vocabulary :=
  ⟨.fresh { Hardware.switchedOn 0 0 with
      clock := ⟨0xFFFFFFFE, 7, false⟩
      sleepLimit := 4294967295
      interrupts :=
        [⟨1, [.call .start, .readTime]⟩, ⟨4294967295, [.call .sample, .reap 1, .call .stop]⟩] },
    [.host (.job 0 [.readTime])], .perform (.delay 0xFFFFFFFF)⟩

theorem delay_sleeps_exactly_longest :
    (Delay.beginning delaying 0xFFFFFFFF).Undisturbed (delaying.step host) ∧
      ∃ ended,
        Through (Delay.beginning delaying 0xFFFFFFFF).Waits (delaying.step host) ended ∧
        ended.stack = [.host (.job 0 [.readTime])] ∧ ended.control = .deliver .done ∧
        ended.session.state.wakeUps = 4294967295 ∧
        ended.session.state.clock = ⟨0xFFFFFFFD, 6, false⟩ := by
  have undisturbed := Delay.undisturbed_of_leavesClock delaying 0xFFFFFFFF (by decide)
  obtain ⟨ended, waits, stack, control, wakeUps, clock, -⟩ :=
    delay_sleeps_exactly delaying 0xFFFFFFFF (by decide) undisturbed
  exact ⟨undisturbed, ended, waits, stack, control, wakeUps, clock⟩

end BoardSupport.Board
