/-
This file holds the board as a host of the load monitor: what each operation
does, how waiting work goes on, and how operations are carried out one after
the other, each with an allowance of sleep.
-/

import BoardSupport.Board.Hardware
import BoardSupport.Monitor.Machine

namespace BoardSupport.Board

open Monitor (Host Machine Outcome Plan Session)

namespace Hardware

def perform (operation : Operation) (hardware : Hardware) : Plan vocabulary :=
  match operation with
  | .call call => { state := hardware, next := .call call }
  | .preset counters =>
    { hardware with
      clock := { hardware.clock with ticks := counters.total, idleTicks := counters.idle } }.answer
      .done
  | .tick count => { hardware with clock := hardware.clock.ticked count }.answer .done
  | .delay milliseconds => hardware.delay milliseconds
  | .place id body tellHandle =>
    let (result, slot) := hardware.slot.place (.body id body)
    { hardware with slot }.answer
      (.value (if tellHandle then .handle result else .placed (result.map fun _ => ())))
  | .reap handle => (hardware.reap handle).answer .done
  | .runTask => hardware.runTask
  | .mainLoop => { state := hardware, next := .perform .runTask, frames := [.mainLoop] }
  | .readTime =>
    let ticks := hardware.clock.ticks
    hardware.answer (.value (.time ticks (.ofTicks ticks) (.ofTicks ticks)))
  | .setUpTimer => hardware.answer (.value (.timer timerSetup))
  | .lowerTickPriority register =>
    let hardware :=
      { hardware with
        registers := { hardware.registers with tickPriority := register } }.lowerTickPriority
    hardware.answer (.value (.register hardware.registers.tickPriority))
  | .readResetFlags flags restart =>
    let (cause, hardware) :=
      { hardware with registers := { hardware.registers with resetFlags := flags } }.readResetFlags
    hardware.answer (.value (.reset cause hardware.registers.resetFlags restart.isSome))
  | .watchdog operations =>
    let (reports, watchdog) :=
      driveWatchdog .fresh hardware.registers.watchdog operations
    { hardware with registers := { hardware.registers with watchdog } }.answer
      (.value (.watchdog reports))

/-- Go on with waiting work. The main loop sleeps when it found no task, and looks for the next one
otherwise. -/
def resume (frame : Frame) (outcome : Outcome Value) (hardware : Hardware) : Plan vocabulary :=
  match frame with
  | .delaying start span => hardware.continueDelay start span
  | .interrupt wakeUp rest =>
    { hardware.carryOut (.interrupt wakeUp) rest with notes := [.interrupt wakeUp outcome] }
  | .job id rest => { hardware.carryOut (.job id) rest with notes := [.jobStep id outcome] }
  | .running handle => (hardware.reap handle).answer (.value (.ran true))
  | .mainLoop =>
    match outcome with
    | .value (.ran false) => before hardware.sleep .mainLoop
    | _ => { state := hardware, next := .perform .runTask, frames := [.mainLoop] }

end Hardware

def host : Host vocabulary where
  spawn := Hardware.spawn
  reap := Hardware.reap
  runTime hardware := hardware.clock.runTime
  duringRead hardware := hardware.answer .done
  duringDelay := Hardware.delay
  perform := Hardware.perform
  resume := Hardware.resume

/-! ### Running the board -/

/-- What an operation may use: how often the board may sleep, and the interrupts meanwhile. -/
structure Allowance where
  sleepLimit : Nat
  interrupts : List Interrupt

/-- Size of the operations that a task in the slot may set off. -/
def Hardware.slotWeight (hardware : Hardware) : Nat :=
  match hardware.slot.holder with
  | some (_, .body _ operations) => operationsWeight operations
  | _ => 0

/-- Grant an allowance; the wake-ups are counted anew. -/
def Hardware.grant (allowance : Allowance) (hardware : Hardware) : Hardware :=
  { hardware with
    wakeUps := 0, sleepLimit := allowance.sleepLimit, interrupts := allowance.interrupts }

/-- A number of steps within which an operation comes to its end, unless a job runs itself again and
again without ever sleeping. Any other job is run once for every time it is placed, and once more
for every sleep in which it is found in the slot again. -/
def stepBound (operation : Operation) (hardware : Hardware) : Nat :=
  let size := operation.weight + hardware.slotWeight +
    operationsWeight (hardware.interrupts.flatMap Interrupt.operations)
  16 * (hardware.sleepLimit + 2) * Nat.pow (size + 2) 3

/-- Carry out one operation with what is left of the allowance. -/
def operate (operation : Operation) (session : Session vocabulary) :
    Machine.Progress Value × Session vocabulary :=
  session.operate host (stepBound operation session.state) (.perform operation)

/-- Carry out one operation with an allowance of its own. -/
def operateWith (allowance : Allowance) (operation : Operation) (session : Session vocabulary) :
    Machine.Progress Value × Session vocabulary :=
  operate operation { session with state := session.state.grant allowance }

/-- Carry out operations one after the other, each with an allowance of its own, and answer how each
of them went. Nothing follows an operation that was abandoned. -/
def operateAll (session : Session vocabulary) :
    List (Allowance × Operation) → List (Machine.Progress Value × Session vocabulary)
  | [] => []
  | (allowance, operation) :: rest =>
    let (progress, session) := operateWith allowance operation session
    match progress with
    | .abandoned => [(progress, session)]
    | _ => (progress, session) :: operateAll session rest

end BoardSupport.Board
