/-
This file holds the state of the load monitor and what its commands decide.
The monitor is stopped or running; while it runs it holds the handle of the
task that takes its samples. `shouldRun` is what that task looks at, `running`
what callers see. A command is judged from the state alone: it is answered at
once, or it switches the monitor on or off, which needs the host.
-/

import BoardSupport.Device.Argument
import BoardSupport.Device.Command
import BoardSupport.Device.NameTable
import BoardSupport.Load.Sampler

namespace BoardSupport

/-- What a host is told about a task when it creates it. -/
structure TaskSpec where
  name : String
  /-- Stack size in bytes. -/
  stackSize : Nat
  /-- Priority above the idle task. -/
  priority : UInt8
  deriving DecidableEq, Repr

/-- The load monitor on a host whose task handles are of type `Handle`. -/
structure Monitor (Handle : Type) where
  running : Bool
  shouldRun : Bool
  task : Option Handle
  sampler : Sampler
  deriving DecidableEq, Repr

namespace Monitor

variable {Handle : Type}

/-- A monitor that was never started. -/
def stopped : Monitor Handle := ⟨false, false, none, .zero⟩

def samplingTask : TaskSpec :=
  ⟨Settings.monitorName, Settings.samplingStack, Settings.samplingPriority⟩

/-- The load that readers see. -/
def averageLoad (monitor : Monitor Handle) : UInt32 := monitor.sampler.averageLoad

/-! ### Channels -/

/-- The subsystem with the load of the whole board. -/
def aggregateSubsystem : UInt16 := 0

/-- The subsystem with one channel per processor. -/
def processorSubsystem : UInt16 := 1

def loadSubchannel : UInt16 := 0

def subsystemNames : Device.NameTable := ⟨["aggregate", "per-cpu"]⟩

def subchannelNames : Device.NameTable := ⟨["cpu-load"]⟩

/-! ### What a command decides -/

/-- What becomes of a command. -/
inductive Verdict
  /-- It is answered and changes nothing; the argument is as the caller gets it back. -/
  | answer (result : Except Fault UInt32) (argument : Device.Argument)
  /-- The monitor is to be switched on or off. -/
  | switch (on : Bool)
  deriving Repr

/-- Read the load of the whole board: one sample, from the one channel there is, into the first
slot. -/
def aggregateRead (monitor : Monitor Handle) (subchannel : UInt16) :
    Device.Argument → Verdict
  | .channels transfer =>
    if transfer.channels = 1 ∧ subchannel = loadSubchannel then
      match transfer.fill fun _ _ => monitor.averageLoad with
      | some filled => .answer (.ok 0) (.channels filled)
      | none => .answer (.error .notImplemented) (.channels transfer)
    else .answer (.error .notImplemented) (.channels transfer)
  | argument => .answer (.error .notImplemented) argument

/-- Read the loads of consecutive processors, all of which must exist. -/
def processorRead (monitor : Monitor Handle) (subchannel : UInt16) :
    Device.Argument → Verdict
  | .channels transfer =>
    if subchannel.toNat < Settings.processorCount ∧
        subchannel.toNat + transfer.channels.toNat ≤ Settings.processorCount then
      match transfer.fill fun _ _ => monitor.averageLoad with
      | some filled => .answer (.ok 0) (.channels filled)
      | none => .answer (.error .failed) (.channels transfer)
    else .answer (.error .failed) (.channels transfer)
  | argument => .answer (.error .failed) argument

/-- The number of a name in a table, for an argument that is a name. -/
def lookupIn (table : Device.NameTable) (argument : Device.Argument) : Verdict :=
  match argument.text? with
  | some name => .answer (table.number name) argument
  | none => .answer (.error .notImplemented) argument

/-- Judge a command on the aggregate subsystem, which also speaks for the device as a whole. -/
def judgeAggregate (monitor : Monitor Handle) (command : Device.Command) (subchannel : UInt16)
    (argument : Device.Argument) : Verdict :=
  match command with
  | .noop | .analogNoop => .answer (.ok 0) argument
  | .setRunning =>
    match argument.number? with
    | some value => .switch (value ≠ 0)
    | none => .answer (.error .notImplemented) argument
  | .getRunning => .answer (.ok (if monitor.running then 1 else 0)) argument
  | .lookupSubsystem => lookupIn subsystemNames argument
  | .lookupSubchannel => lookupIn subchannelNames argument
  | .queryDirection =>
    match argument with
    | .direction _ => .answer (.ok 0) (.direction .inputOnly)
    | _ => .answer (.error .notImplemented) argument
  | .analogRead => monitor.aggregateRead subchannel argument
  | .setConfiguration | .getConfiguration | .analogWrite =>
    .answer (.error .notImplemented) argument

/-- Judge a command on the subsystem of the single processors. -/
def judgeProcessor (monitor : Monitor Handle) (command : Device.Command) (subchannel : UInt16)
    (argument : Device.Argument) : Verdict :=
  match command with
  | .noop | .analogNoop => .answer (.ok 0) argument
  | .analogRead => monitor.processorRead subchannel argument
  | _ => .answer (.error .notImplemented) argument

/-- Judge a raw command. A word that is no command and a subsystem that does not exist are not
implemented. -/
def judge (monitor : Monitor Handle) (invocation : Device.Invocation) : Verdict :=
  match Device.Command.ofCode? invocation.command with
  | none => .answer (.error .notImplemented) invocation.argument
  | some command =>
    if invocation.subsystem = aggregateSubsystem then
      monitor.judgeAggregate command invocation.subchannel invocation.argument
    else if invocation.subsystem = processorSubsystem then
      monitor.judgeProcessor command invocation.subchannel invocation.argument
    else .answer (.error .notImplemented) invocation.argument

end Monitor

end BoardSupport
