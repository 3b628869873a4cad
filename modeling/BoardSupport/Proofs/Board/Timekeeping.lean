/-
This file follows the time that the board shows. It is formed from the tick counter, whose
rollovers are not tracked, so that it tells the ticks since the last rollover and not those
since the board was switched on: every `2 ^ 32` ticks it begins again at zero, and between
two rollovers it advances by a thousand microseconds with every tick. Unlike the account of
idle time this does not depend on which delays wait. Every run is looked at here, also one
in which delays begin within delays.
-/

import BoardSupport.Proofs.Board.Delaying
import BoardSupport.Proofs.Board.RunTime

namespace BoardSupport

/-- A tick lasts a thousand microseconds. -/
theorem SystemTime.micros_ofTicks (ticks : UInt32) :
    (SystemTime.ofTicks ticks).micros = 1000 * ticks.toNat := by
  have rate : Settings.tickRate.toNat = 1000 := rfl
  show (ticks.toNat : Int) * 1000000 / Settings.tickRate.toNat = 1000 * ticks.toNat
  rw [rate]
  omega

namespace Board

open Monitor (Control Host Machine Outcome Plan Transition)

/-! ### The ticks of a plan -/

namespace Hardware

/-- A plan of the board delivers the ticks of an operation, and one for every wake-up. -/
def Delivers (hardware : Hardware) (ticks : Nat) (plan : Plan vocabulary) : Prop :=
  plan.state.clock.ticks =
    hardware.clock.ticks + .ofNat (ticks + (plan.state.wakeUps - hardware.wakeUps))

theorem delivers_of_still {hardware : Hardware} {plan : Plan vocabulary}
    (ticks : plan.state.clock.ticks = hardware.clock.ticks)
    (wakeUps : plan.state.wakeUps = hardware.wakeUps) : hardware.Delivers 0 plan := by
  rw [Delivers, ticks, wakeUps, Nat.sub_self]
  exact (UInt32.add_zero _).symm

/-- A delay delivers its ticks also while another one waits. -/
theorem delivers_continueDelay (hardware : Hardware) (start span : UInt32) :
    hardware.Delivers 0 (hardware.continueDelay start span) := by
  unfold continueDelay
  split
  · exact (keepsClock_sleep rfl).passes.ticks
  · exact delivers_of_still rfl rfl

theorem delivers_delay (hardware : Hardware) (milliseconds : UInt32) :
    hardware.Delivers 0 (hardware.delay milliseconds) :=
  delivers_continueDelay { hardware with clock := { hardware.clock with idle := true } } _ _

theorem delivers_perform (hardware : Hardware) (operation : Operation)
    (unset : ∀ counters, operation ≠ .preset counters) :
    hardware.Delivers operation.ticks (hardware.perform operation) := by
  by_cases delaying : ∃ milliseconds, operation = .delay milliseconds
  · obtain ⟨milliseconds, rfl⟩ := delaying
    exact hardware.delivers_delay milliseconds
  -- Which delays wait does not matter for the ticks, so they are taken to be as the clock says.
  · exact (keepsClock_perform operation rfl unset fun milliseconds same =>
      absurd ⟨milliseconds, same⟩ delaying).passes.ticks

theorem delivers_resume (hardware : Hardware) (frame : Frame) (outcome : Outcome Value) :
    hardware.Delivers 0 (hardware.resume frame outcome) := by
  cases frame with
  | delaying start span => exact hardware.delivers_continueDelay start span
  | _ => exact (keepsClock_resume _ outcome (Nat.add_zero _)).passes.ticks

end Hardware

/-! ### The ticks of a step -/

theorem ticks_of_still {machine next : Machine vocabulary}
    (uncommanded : commandedTicks machine = 0)
    (clock : next.session.state.clock = machine.session.state.clock)
    (wakeUps : next.session.state.wakeUps = machine.session.state.wakeUps) :
    next.session.state.clock.ticks =
      machine.session.state.clock.ticks + .ofNat (deliveredTicks machine next) := by
  rw [deliveredTicks, uncommanded, clock, wakeUps, Nat.sub_self]
  exact (UInt32.add_zero _).symm

theorem ticks_of_follow {machine : Machine vocabulary} (middle : Machine vocabulary)
    {plan : Plan vocabulary} {ticks : Nat} (commanded : commandedTicks machine = ticks)
    (delivers : machine.session.state.Delivers ticks plan) :
    (middle.follow plan).session.state.clock.ticks =
      machine.session.state.clock.ticks + .ofNat (deliveredTicks machine (middle.follow plan)) := by
  rw [deliveredTicks, commanded]
  exact delivers

/-- Every step advances the tick counter by the ticks that it delivers, unless it sets the counters
by hand. -/
theorem ticks_of_transition {machine next : Machine vocabulary}
    (taken : Transition host machine next) (unset : setsCounters machine = false) :
    next.session.state.clock.ticks =
      machine.session.state.clock.ticks + .ofNat (deliveredTicks machine next) := by
  cases taken with
  | rest ended => exact ticks_of_still (commandedTicks_of_ended ended) rfl rfl
  | switch on outcome asked =>
    obtain ⟨call, called⟩ := Machine.call_of_switching asked
    have rested := rested_switch machine.session on
    exact ticks_of_still (by rw [commandedTicks, called]) rested.clock rested.wakeUps
  | answer call outcome asked | decline asked | measure asked =>
    exact ticks_of_still (by rw [commandedTicks, asked]) rfl rfl
  | wake rest outcome given | leave _ rest outcome given | conclude _ rest outcome given =>
    exact ticks_of_still (by rw [commandedTicks, given]) rfl rfl
  | enter asked =>
    exact ticks_of_follow _ (by rw [commandedTicks, asked]) (Hardware.delivers_delay _ _)
  | publish _ rest outcome given =>
    exact ticks_of_follow _ (by rw [commandedTicks, given]) (Hardware.delivers_delay _ _)
  | perform operation asked =>
    refine ticks_of_follow machine (by rw [commandedTicks, asked])
      (Hardware.delivers_perform _ operation ?_)
    intro counters same
    rw [setsCounters, asked, same] at unset
    cases unset
  | resume frame rest outcome given =>
    exact ticks_of_follow _ (by rw [commandedTicks, given])
      (Hardware.delivers_resume _ frame outcome)

/-! ### Any run at all -/

namespace Account

/-- How any run of the board goes on: as an accounted one does, or by a step that begins a delay
while another one waits. Still no step may set the counters by hand. -/
inductive FreeMove (account : Account) : Account → Prop
  | accounted {later : Account} (taken : account.Move later) : FreeMove account later
  | step (unset : setsCounters account.machine = false) : FreeMove account account.step

def FreeMoves : Account → Account → Prop := Relation.ReflTransGen FreeMove

/-- The accounts of any runs at all from the moment the board is switched on. -/
def OfFreeRun (account : Account) : Prop :=
  ∃ hardware control, hardware.clock = .zero ∧
    FreeMoves ⟨⟨.fresh hardware, [], control⟩, ⟨0, 0⟩, ⟨0, 0⟩⟩ account

/-- The tick counter shows the ticks since the board was switched on, modulo its width. -/
def ShowsTicks (account : Account) : Prop :=
  account.hardware.clock.ticks = .ofNat account.counts.total

theorem ShowsTicks.step {account : Account} (shows : account.ShowsTicks)
    (unset : setsCounters account.machine = false) : account.step.ShowsTicks := by
  have ticks := ticks_of_transition (Machine.transition_step host account.machine) unset
  have before : account.machine.session.state.clock.ticks = .ofNat account.counts.total := shows
  rw [before, ← UInt32.ofNat_add] at ticks
  exact ticks

theorem ShowsTicks.interrupt {account : Account} (shows : account.ShowsTicks) :
    account.interrupt.ShowsTicks := by
  show account.hardware.clock.tick.ticks = .ofNat (account.counts.total + 1)
  rw [Clock.tick_ticks, shows, UInt32.ofNat_add]
  rfl

theorem ShowsTicks.move {account later : Account} (shows : account.ShowsTicks)
    (taken : account.FreeMove later) : later.ShowsTicks := by
  cases taken with
  | step unset => exact shows.step unset
  | accounted taken =>
    cases taken with
    | step unset => exact shows.step unset
    | interrupt => exact shows.interrupt
    | next outcome hardware control given empty clock =>
      exact (congrArg Clock.ticks clock).trans shows

theorem ShowsTicks.moves {account later : Account} (shows : account.ShowsTicks)
    (path : account.FreeMoves later) : later.ShowsTicks := by
  induction path with
  | refl => exact shows
  | tail _ taken inductionHypothesis => exact inductionHypothesis.move taken

theorem OfFreeRun.showsTicks {account : Account} (run : account.OfFreeRun) :
    account.ShowsTicks := by
  obtain ⟨hardware, control, clock, path⟩ := run
  refine ShowsTicks.moves ?_ path
  exact congrArg Clock.ticks clock

theorem FreeMove.total_le {account later : Account} (taken : account.FreeMove later) :
    account.counts.total ≤ later.counts.total := by
  cases taken with
  | step => exact Nat.le_add_right _ _
  | accounted taken =>
    cases taken with
    | step | interrupt => exact Nat.le_add_right _ _
    | next => exact Nat.le_refl _

theorem FreeMoves.total_le {account later : Account} (path : account.FreeMoves later) :
    account.counts.total ≤ later.counts.total := by
  induction path with
  | refl => exact Nat.le_refl _
  | tail _ taken inductionHypothesis => exact inductionHypothesis.trans taken.total_le

/-! ### The time of a moment -/

/-- The time that the board shows. -/
def time (account : Account) : SystemTime := .ofTicks account.hardware.clock.ticks

/-- How often the tick counter has rolled over. -/
def rollovers (account : Account) : Nat := account.counts.total / 2 ^ 32

/-- The ticks since the tick counter rolled over last. -/
def sinceRollover (account : Account) : Nat := account.counts.total % 2 ^ 32

theorem ShowsTicks.micros {account : Account} (shows : account.ShowsTicks) :
    account.time.micros = 1000 * account.sinceRollover := by
  rw [time, SystemTime.micros_ofTicks, shows, UInt32.toNat_ofNat']
  rfl

theorem ShowsTicks.read {account : Account} (shows : account.ShowsTicks)
    (asked : account.machine.control = .perform .readTime) :
    account.step.machine.control = .deliver (.value (.time (.ofNat account.counts.total)
      ⟨1000 * account.sinceRollover⟩ ⟨0, .ofNat account.counts.total⟩)) := by
  have answered : account.step.machine.control = .deliver (.value (.time
      account.hardware.clock.ticks ⟨account.time.micros⟩ ⟨0, account.hardware.clock.ticks⟩)) := by
    rw [Account.step, Machine.step, asked]
    rfl
  rw [answered, shows.micros, shows]

theorem sinceRollover_of_rollovers_eq {account later : Account} (path : account.FreeMoves later)
    (same : later.rollovers = account.rollovers) :
    later.sinceRollover = account.sinceRollover + (later.counts.total - account.counts.total) := by
  have grown := path.total_le
  unfold rollovers at same
  unfold sinceRollover
  omega

theorem sinceRollover_lt_iff {account later : Account} (path : account.FreeMoves later)
    (near : later.counts.total < account.counts.total + 2 ^ 32) :
    later.sinceRollover < account.sinceRollover ↔ account.rollovers < later.rollovers := by
  have grown := path.total_le
  unfold sinceRollover rollovers
  omega

/-- What the time says at some moment of a run, and how it goes on from there. -/
structure TellsTime (account : Account) : Prop where
  /-- It tells the ticks since the last rollover of the tick counter. -/
  time : account.time = ⟨1000 * account.sinceRollover⟩
  /-- Before the first rollover these are all ticks since the board was switched on. -/
  early : account.counts.total < 2 ^ 32 → account.time = ⟨1000 * account.counts.total⟩
  /-- This is what is answered when the time is read. -/
  read : account.machine.control = .perform .readTime →
    account.step.machine.control = .deliver (.value (.time (.ofNat account.counts.total)
      ⟨1000 * account.sinceRollover⟩ ⟨0, .ofNat account.counts.total⟩))
  /-- Up to the next rollover every tick adds its thousand microseconds. -/
  steady : ∀ later, account.FreeMoves later → later.rollovers = account.rollovers →
    later.time.micros =
      account.time.micros + 1000 * (later.counts.total - account.counts.total : Nat)
  /-- In less than a turn of the tick counter, time goes back exactly if the counter rolls over. -/
  back : ∀ later, account.FreeMoves later → later.counts.total < account.counts.total + 2 ^ 32 →
    (later.time.micros < account.time.micros ↔ account.rollovers < later.rollovers)

/-- The time tells the ticks since the tick counter rolled over last, of which there are at first as
many as since the board was switched on. It does not go back before the counter rolls over, and then
it does. This holds of any run at all, however long. -/
theorem time_since_rollover (account : Account) (run : account.OfFreeRun) : account.TellsTime := by
  have shows := run.showsTicks
  have time : account.time = ⟨1000 * account.sinceRollover⟩ := congrArg SystemTime.mk shows.micros
  refine
    { time
      early := fun early => ?_
      read := shows.read
      steady := fun later path same => ?_
      back := fun later path near => ?_ }
  · rw [time, sinceRollover, Nat.mod_eq_of_lt early]
  · rw [(shows.moves path).micros, shows.micros, sinceRollover_of_rollovers_eq path same,
      Nat.cast_add, Int.mul_add]
  · rw [(shows.moves path).micros, shows.micros, ← sinceRollover_lt_iff path near]
    omega

/-! ### A full turn of the counter -/

/-- The account of a fresh board after some ticks. -/
def ticking (count : Nat) : Account :=
  step ⟨⟨.fresh (.switchedOn 0 0), [], .perform (.tick count)⟩, ⟨0, 0⟩, ⟨0, 0⟩⟩

theorem ofFreeRun_ticking (count : Nat) : (ticking count).OfFreeRun :=
  ⟨_, _, rfl, .single (.step rfl)⟩

theorem total_ticking (count : Nat) : (ticking count).counts.total = count := Nat.zero_add count

theorem freeMoves_interrupt (account : Account) : account.FreeMoves account.interrupt :=
  .single (.accounted .interrupt)

theorem ofFreeRun_interrupt {account : Account} (run : account.OfFreeRun) :
    account.interrupt.OfFreeRun := by
  obtain ⟨hardware, control, clock, path⟩ := run
  exact ⟨hardware, control, clock, path.tail (.accounted .interrupt)⟩

/-- One tick more than a word can count. -/
theorem total_full_turn : (ticking 4294967295).interrupt.counts.total = 2 ^ 32 :=
  congrArg Nat.succ (total_ticking 4294967295)

/-- With the last tick before the counter rolls over, the time is that since the board was switched
on; with the next tick it goes back. -/
theorem time_since_rollover_full_turn :
    (ticking 4294967295).OfFreeRun ∧ (ticking 4294967295).time = ⟨4294967295000⟩ ∧
      (ticking 4294967295).interrupt.time.micros < (ticking 4294967295).time.micros := by
  have run := ofFreeRun_ticking 4294967295
  have total := total_ticking 4294967295
  have tells := time_since_rollover (ticking 4294967295) run
  refine ⟨run, ?_, ?_⟩
  · rw [tells.early (by rw [total]; decide), total]
    rfl
  · have near : (ticking 4294967295).interrupt.counts.total <
        (ticking 4294967295).counts.total + 2 ^ 32 := by
      rw [total_full_turn, total]
      decide
    rw [tells.back _ (freeMoves_interrupt _) near, rollovers, rollovers, total_full_turn, total]
    decide

/-- The time is not that since the board was switched on, and it goes back: the tick with which the
counter completes its first turn disproves both. -/
theorem not_time_since_switched_on :
    (¬ ∀ account : Account, account.OfFreeRun → account.time = ⟨1000 * account.counts.total⟩) ∧
      ¬ ∀ account later : Account, account.OfFreeRun → account.FreeMoves later →
        account.time.micros ≤ later.time.micros := by
  have run := ofFreeRun_ticking 4294967295
  have turned : (ticking 4294967295).interrupt.time.micros = 0 := by
    rw [run.showsTicks.interrupt.micros, sinceRollover, total_full_turn]
    rfl
  constructor
  · intro sinceSwitchedOn
    have exact := congrArg SystemTime.micros (sinceSwitchedOn _ (ofFreeRun_interrupt run))
    rw [turned, total_full_turn] at exact
    exact absurd exact (by decide)
  · intro monotone
    have later := monotone _ _ run (freeMoves_interrupt _)
    rw [turned, run.showsTicks.micros, sinceRollover, total_ticking] at later
    exact absurd later (by decide)

end Account

end Board

end BoardSupport
