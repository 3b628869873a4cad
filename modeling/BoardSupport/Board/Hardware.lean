/-
This file holds the hardware of the board and how it runs. It has one place for
a task; while a task delays, the board sleeps from one tick to the next, and
other interrupts may do work of their own at chosen wake-ups. How often the
board may sleep is limited, so that a run ends although the firmware never
does: beyond the limit the run is abandoned as it stands.
-/

import BoardSupport.Board.Operation
import BoardSupport.Board.ResetFlags
import BoardSupport.Board.TaskSlot

namespace BoardSupport.Board

open Monitor (Outcome Plan Vocabulary)

/-- What an interrupt does when the board wakes up for the `wakeUp`th time. -/
structure Interrupt where
  wakeUp : Nat
  operations : List Operation

/-- A task in the board's slot. -/
inductive Job
  | sampling
  /-- Some operations, carried out one after the other. -/
  | body (id : Nat) (operations : List Operation)

/-- The registers of the board that are looked at. -/
structure Registers where
  resetFlags : UInt32
  tickPriority : UInt32
  watchdog : IndependentWatchdog.Registers
  deriving DecidableEq, Repr

structure Hardware where
  clock : Clock
  slot : TaskSlot Job
  registers : Registers
  /-- How often the board has woken up. -/
  wakeUps : Nat
  /-- How often the board may sleep. -/
  sleepLimit : Nat
  interrupts : List Interrupt

/-- Work of the board that waits for an outcome. -/
inductive Frame
  /-- A delay of `span` ticks that began at tick `start`. -/
  | delaying (start span : UInt32)
  /-- An operation of an interrupt is in progress; the others follow. -/
  | interrupt (wakeUp : Nat) (rest : List Operation)
  /-- An operation of a job is in progress; the others follow. -/
  | job (id : Nat) (rest : List Operation)
  | running (handle : UInt32)
  /-- The main loop waits for its task. -/
  | mainLoop

inductive Note
  | interrupt (wakeUp : Nat) (outcome : Outcome Value)
  | jobStarted (id : Nat)
  | jobStep (id : Nat) (outcome : Outcome Value)

abbrev vocabulary : Vocabulary where
  State := Hardware
  Handle := UInt32
  Operation := Operation
  Frame := Frame
  Value := Value
  Note := Note

namespace Hardware

/-- A board that was just switched on, with the flags and priorities found in its registers. -/
def switchedOn (resetFlags tickPriority : UInt32) : Hardware where
  clock := .zero
  slot := .unused
  registers := ⟨resetFlags, tickPriority, ⟨0, 0, 0⟩⟩
  wakeUps := 0
  sleepLimit := 0
  interrupts := []

/-! ### Sleeping -/

/-- Do nothing and hand over an outcome. -/
def answer (hardware : Hardware) (outcome : Outcome Value) : Plan vocabulary :=
  { state := hardware, next := .deliver outcome }

/-- Carry out operations one after the other, each within a frame. -/
def carryOut (hardware : Hardware) (frame : List Operation → Frame) :
    List Operation → Plan vocabulary
  | [] => hardware.answer .done
  | operation :: rest =>
    { state := hardware, next := .perform operation, frames := [frame rest] }

/-- Sleep until the next tick. The interrupts of that wake-up come after it. -/
def sleep (hardware : Hardware) : Plan vocabulary :=
  if hardware.wakeUps < hardware.sleepLimit then
    let wakeUp := hardware.wakeUps + 1
    let due := hardware.interrupts.filter (·.wakeUp = wakeUp)
    { hardware with clock := hardware.clock.tick, wakeUps := wakeUp }.carryOut (.interrupt wakeUp)
      (due.flatMap Interrupt.operations)
  else { state := hardware, next := .abandon }

/-- Put work underneath a plan, to go on with once it is done. -/
def before (plan : Plan vocabulary) (frame : Frame) : Plan vocabulary :=
  { plan with frames := plan.frames ++ [frame] }

/-- Sleep for the rest of a delay. -/
def continueDelay (hardware : Hardware) (start span : UInt32) : Plan vocabulary :=
  if hardware.clock.waiting start span then before hardware.sleep (.delaying start span)
  else { hardware with clock := { hardware.clock with idle := false } }.answer .done

/-- Wait for some milliseconds. The board counts as idle meanwhile. -/
def delay (milliseconds : UInt32) (hardware : Hardware) : Plan vocabulary :=
  { hardware with clock := { hardware.clock with idle := true } }.continueDelay
    hardware.clock.ticks (Clock.ticksOf milliseconds)

/-! ### Tasks -/

def spawn (_ : TaskSpec) (hardware : Hardware) : Except Fault UInt32 × Hardware :=
  let (result, slot) := hardware.slot.place .sampling
  (result, { hardware with slot })

/-- Give back a handle. Whoever runs on the board cannot be waited for, so a task that is being run
goes on until it sees that it should end. -/
def reap (handle : UInt32) (hardware : Hardware) : Hardware :=
  { hardware with slot := hardware.slot.release handle }

/-- Run the task in the slot. It stays there while it runs. -/
def runTask (hardware : Hardware) : Plan vocabulary :=
  match hardware.slot.holder with
  | none => hardware.answer (.value (.ran false))
  | some (handle, .sampling) =>
    { state := hardware, next := .call .runTask, frames := [.running handle] }
  | some (handle, .body id operations) =>
    before { hardware.carryOut (.job id) operations with notes := [.jobStarted id] }
      (.running handle)

/-! ### Registers -/

/-- Drive a watchdog on the board's independent watchdog, with a report after every operation. -/
def driveWatchdog (watchdog : Watchdog) (registers : IndependentWatchdog.Registers) :
    List WatchdogOperation → List WatchdogReport × IndependentWatchdog.Registers
  | [] => ([], registers)
  | operation :: rest =>
    let (watchdog, registers) := match operation with
      | .perform operation =>
        watchdog.perform IndependentWatchdog.hardware operation registers
      | .clearKey => (watchdog, { registers with key := 0 })
    let (reports, final) := driveWatchdog watchdog registers rest
    (⟨watchdog, registers⟩ :: reports, final)

def readResetFlags (hardware : Hardware) : ResetCause × Hardware :=
  let flags := hardware.registers.resetFlags
  (ResetFlags.cause flags,
    { hardware with
      registers := { hardware.registers with resetFlags := flags ||| ResetFlags.clear } })

/-- Give the tick the lowest priority. -/
def lowerTickPriority (hardware : Hardware) : Hardware :=
  { hardware with
    registers :=
      { hardware.registers with
        tickPriority := lowestTickPriority hardware.registers.tickPriority } }

end Hardware

end BoardSupport.Board
