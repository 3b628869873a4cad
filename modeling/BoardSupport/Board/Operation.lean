/-
This file holds what can be done on the board from outside of its firmware, and
what comes of it. Besides the calls of the load monitor these are operations
on the clock, on the slot for tasks, and on registers. A job is a task made of
such operations, so operations contain one another.
-/

import BoardSupport.Board.Clock
import BoardSupport.Board.IndependentWatchdog
import BoardSupport.Monitor.Host
import BoardSupport.Reset
import BoardSupport.SystemTime

namespace BoardSupport.Board

open Monitor (Call)

inductive WatchdogOperation
  | perform (operation : Watchdog.Operation)
  | clearKey
  deriving DecidableEq, Repr

/-- One thing to do on the board. -/
inductive Operation
  | call (call : Call)
  | preset (counters : RunTime)
  | tick (count : Nat)
  | delay (milliseconds : UInt32)
  /-- Place a job in the task slot; with its handle as the outcome, or only that it was placed. -/
  | place (id : Nat) (body : List Operation) (tellHandle : Bool)
  | reap (handle : UInt32)
  /-- Run the task in the slot, if there is one. -/
  | runTask
  /-- Run tasks for ever, and sleep while there is none. -/
  | mainLoop
  | readTime
  | setUpTimer
  /-- Lower the priority of the tick, with the priority register set beforehand. -/
  | lowerTickPriority (register : UInt32)
  /-- Read and clear the reset flags, set beforehand, and perhaps restart. -/
  | readResetFlags (flags : UInt32) (restart : Option HardwareReset)
  /-- Drive a new watchdog on the board's independent watchdog. -/
  | watchdog (operations : List WatchdogOperation)

mutual

/-- Size of an operation with everything it may set off. -/
def Operation.weight : Operation → Nat
  | .place _ body _ => 1 + operationsWeight body
  | _ => 1

def operationsWeight : List Operation → Nat
  | [] => 0
  | operation :: rest => operation.weight + operationsWeight rest

end

structure WatchdogReport where
  watchdog : Watchdog
  registers : IndependentWatchdog.Registers

inductive Value
  | ran (found : Bool)
  | handle (result : Except Fault UInt32)
  | placed (result : Except Fault Unit)
  | time (ticks : UInt32) (time : SystemTime) (timebase : Timebase)
  | timer (setup : List TimerSetup)
  | register (content : UInt32)
  /-- The cause of the last reset, the flags register afterwards, and whether a restart was asked
  for. -/
  | reset (cause : ResetCause) (flags : UInt32) (restarted : Bool)
  | watchdog (reports : List WatchdogReport)

end BoardSupport.Board
