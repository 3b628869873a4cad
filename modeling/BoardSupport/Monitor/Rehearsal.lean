/-
This file holds a host on which the load monitor is rehearsed: a scheduler
whose counters move only when a script says so. The script also says what
happens at the two places where other code can run, in the pauses of the
sampling task and between reading the counters and using them, so that any
interleaving can be laid out in advance. A pause for which the script has
nothing left ends the rehearsal of the task by stopping the monitor.
-/

import BoardSupport.Monitor.Machine

namespace BoardSupport.Monitor.Rehearsal

/-- How the scheduler answers a request for a task. -/
inductive SpawnMode
  | accepting
  | failing
  | unsupported
  deriving DecidableEq, Repr

/-! ### Scripts -/

mutual

/-- One thing to do in a rehearsal. -/
inductive Operation
  | call (call : Call)
  | setCounters (counters : RunTime)
  | advance (step : RunTime)
  | setMode (mode : SpawnMode)
  /-- Whether a removed task stays among the pending ones. -/
  | setKeep (keep : Bool)
  /-- What to do when the counters are read the next time. -/
  | onRead (operations : List Operation)
  /-- Run the oldest pending task, with one entry of the script per pause. -/
  | runPending (pauses : List Pause)

/-- What happens in one pause: the counters advance, the next reading of the counters is prepared,
and operations are carried out. -/
inductive Pause
  | mk (advance : Option RunTime) (onRead : List Operation) (during : List Operation)

end

mutual

/-- Size of an operation with everything it may set off. -/
def Operation.weight : Operation → Nat
  | .onRead operations => 1 + operationsWeight operations
  | .runPending pauses => 1 + pausesWeight pauses
  | _ => 1

def Pause.weight : Pause → Nat
  | .mk _ onRead during => 1 + operationsWeight onRead + operationsWeight during

def operationsWeight : List Operation → Nat
  | [] => 0
  | operation :: rest => operation.weight + operationsWeight rest

def pausesWeight : List Pause → Nat
  | [] => 0
  | pause :: rest => pause.weight + pausesWeight rest

end

/-! ### The scheduler -/

structure Scheduler where
  counters : RunTime
  /-- The last handle given out; refused requests use one up too. -/
  lastHandle : UInt32
  mode : SpawnMode
  keep : Bool
  /-- Handles of the tasks that were created and neither run nor removed, oldest first. -/
  pending : List UInt32
  script : List Pause
  /-- What to do when the counters are read the next time. -/
  onRead : List Operation

/-- A scheduler on which nothing has happened yet. -/
def Scheduler.fresh : Scheduler :=
  { counters := ⟨0, 0⟩, lastHandle := 0, mode := .accepting, keep := false, pending := []
    script := [], onRead := [] }

/-- Work of the scheduler that waits for an outcome. -/
inductive Frame
  /-- One of several operations is in progress; the others follow. -/
  | nested (rest : List Operation)
  /-- The pending task with this handle is being run. -/
  | running (handle : UInt32)

inductive Value
  | nothingPending
  /-- A task was run, and so many pauses of its script were not needed. -/
  | ran (handle : UInt32) (pausesLeft : Nat)

/-- The scheduler's vocabulary. A nested operation enters its outcome in the journal. -/
abbrev vocabulary : Vocabulary where
  State := Scheduler
  Handle := UInt32
  Operation := Operation
  Frame := Frame
  Value := Value
  Note := Outcome Value

namespace Scheduler

/-- Advance both counters, modulo their width. -/
def advance (scheduler : Scheduler) (step : RunTime) : Scheduler :=
  { scheduler with
    counters := ⟨scheduler.counters.total + step.total, scheduler.counters.idle + step.idle⟩ }

def carryOut (scheduler : Scheduler) : List Operation → Plan vocabulary
  | [] => { state := scheduler, next := .deliver .done }
  | operation :: rest =>
    { state := scheduler, next := .perform operation, frames := [.nested rest] }

def spawn (_ : TaskSpec) (scheduler : Scheduler) : Except Fault UInt32 × Scheduler :=
  let handle := scheduler.lastHandle + 1
  match scheduler.mode with
  | .accepting =>
    (.ok handle,
      { scheduler with lastHandle := handle, pending := scheduler.pending ++ [handle] })
  | .failing => (.error .failed, { scheduler with lastHandle := handle })
  | .unsupported => (.error .notImplemented, { scheduler with lastHandle := handle })

def withdraw (scheduler : Scheduler) (handle : UInt32) : Scheduler :=
  { scheduler with pending := scheduler.pending.filter (· ≠ handle) }

def reap (handle : UInt32) (scheduler : Scheduler) : Scheduler :=
  if scheduler.keep then scheduler else scheduler.withdraw handle

/-- Between reading the counters and using them, what was prepared for this reading is done,
once. -/
def duringRead (scheduler : Scheduler) : Plan vocabulary :=
  { scheduler with onRead := [] }.carryOut scheduler.onRead

/-- A pause takes the next entry of the script; without one it stops the monitor. -/
def duringDelay (_ : UInt32) (scheduler : Scheduler) : Plan vocabulary :=
  match scheduler.script with
  | [] => { state := scheduler, next := .call .stop }
  | .mk advance onRead during :: script =>
    let scheduler := { scheduler with script, onRead }
    (match advance with
      | some step => scheduler.advance step
      | none => scheduler).carryOut during

def perform (operation : Operation) (scheduler : Scheduler) : Plan vocabulary :=
  match operation with
  | .call call => { state := scheduler, next := .call call }
  | .setCounters counters => { state := { scheduler with counters }, next := .deliver .done }
  | .advance step => { state := scheduler.advance step, next := .deliver .done }
  | .setMode mode => { state := { scheduler with mode }, next := .deliver .done }
  | .setKeep keep => { state := { scheduler with keep }, next := .deliver .done }
  | .onRead onRead => { state := { scheduler with onRead }, next := .deliver .done }
  | .runPending script =>
    match scheduler.pending with
    | [] => { state := scheduler, next := .deliver (.value .nothingPending) }
    | handle :: _ =>
      { state := { scheduler with script }, next := .call .runTask, frames := [.running handle] }

/-- Go on after an operation, or after a pending task has returned. What the task left of its script
is dropped. -/
def resume (frame : Frame) (outcome : Outcome Value) (scheduler : Scheduler) : Plan vocabulary :=
  match frame with
  | .nested rest => { scheduler.carryOut rest with notes := [outcome] }
  | .running handle =>
    { state := { scheduler with onRead := [], script := [] }.withdraw handle
      next := .deliver (.value (.ran handle scheduler.script.length)) }

end Scheduler

def host : Host vocabulary where
  spawn := Scheduler.spawn
  reap := Scheduler.reap
  runTime := Scheduler.counters
  duringRead := Scheduler.duringRead
  duringDelay := Scheduler.duringDelay
  perform := Scheduler.perform
  resume := Scheduler.resume

/-! ### Rehearsing -/

/-- A number of steps within which an operation comes to its end. An operation of the script takes
part in a run once, and so does an entry; neither takes more than a dozen steps. -/
def stepBound (operation : Operation) (scheduler : Scheduler) : Nat :=
  12 * (operation.weight + operationsWeight scheduler.onRead + pausesWeight scheduler.script + 1)

def operate (operation : Operation) (session : Session vocabulary) :
    Machine.Progress Value × Session vocabulary :=
  session.operate host (stepBound operation session.state) (.perform operation)

/-- Carry out operations one after the other, and answer how each of them went. -/
def operateAll (session : Session vocabulary) :
    List Operation → List (Machine.Progress Value × Session vocabulary)
  | [] => []
  | operation :: rest =>
    let (progress, session) := operate operation session
    (progress, session) :: operateAll session rest

/-- A monitor that was never started, on a scheduler on which nothing has happened. -/
def fresh : Session vocabulary := .fresh .fresh

end BoardSupport.Monitor.Rehearsal
