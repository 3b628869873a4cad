/-
This file holds a bench on which a registry is tried out with drivers of three
kinds: load monitors on schedulers of their own, drivers that answer what they
were told to and note what they are asked, and drivers that only know names.
-/

import BoardSupport.Device.NameTable
import BoardSupport.Device.Registry
import BoardSupport.Monitor.Rehearsal

namespace BoardSupport.Device

/-- A driver that answers what it was told to. -/
structure ScriptedDriver where
  answers : List (UInt32 × Int32)
  otherwise : Int32
  /-- What the requested slots of a buffer are filled with, counting upwards. -/
  fill : Option UInt32

inductive BenchDriver
  | monitor (session : Monitor.Session Monitor.Rehearsal.vocabulary)
  | scripted (script : ScriptedDriver)
  | names (subsystems channels : NameTable)

/-- A command that a scripted driver has received. -/
structure Received where
  driver : Nat
  invocation : Invocation

/-- The drivers, and what the scripted ones have received, newest first. -/
structure Bench where
  drivers : List BenchDriver
  received : List Received

def ScriptedDriver.reply (script : ScriptedDriver) (invocation : Invocation) : Reply where
  status :=
    ((script.answers.find? fun answer => answer.1 = invocation.command).map Prod.snd).getD
      script.otherwise
  argument :=
    match invocation.argument, script.fill with
    | .channels transfer, some first =>
      .channels ((transfer.fill fun index _ => first + UInt32.ofNat index).getD transfer)
    | argument, _ => argument

/-- The reply of a driver that only knows names. -/
def namesReply (subsystems channels : NameTable) (invocation : Invocation) : Reply where
  status :=
    match Command.ofCode? invocation.command, invocation.argument with
    | some .lookupSubsystem, .text name => statusWord (subsystems.number name)
    | some .lookupSubchannel, .text name => statusWord (channels.number name)
    | _, _ => Fault.notImplemented.code
  argument := invocation.argument

namespace Bench

/-- Send a command to the driver at a position. Nothing is at positions beyond the drivers. -/
def invoke : Registry.Invoke Nat Bench := fun position invocation bench =>
  match bench.drivers[position]? with
  | some (.monitor session) =>
    let (reply, session) := session.command Monitor.Rehearsal.host invocation
    (reply, { bench with drivers := bench.drivers.set position (.monitor session) })
  | some (.scripted script) =>
    (script.reply invocation, { bench with received := ⟨position, invocation⟩ :: bench.received })
  | some (.names subsystems channels) => (namesReply subsystems channels invocation, bench)
  | none => (.refusal .failed invocation.argument, bench)

/-- Rehearse an operation on the monitor at a position, if there is one. -/
def operate (position : Nat) (operation : Monitor.Rehearsal.Operation) (bench : Bench) :
    Option (Monitor.Machine.Progress Monitor.Rehearsal.Value) × Bench :=
  match bench.drivers[position]? with
  | some (.monitor session) =>
    let (progress, session) := Monitor.Rehearsal.operate operation session
    (some progress, { bench with drivers := bench.drivers.set position (.monitor session) })
  | _ => (none, bench)

end Bench

/-! ### Trying out a registry -/

/-- One thing to do with a registry on the bench. -/
inductive Trial
  | register (name : String) (driver : Nat)
  | find (name : String)
  | resolve (device subsystem subchannel : String)
  | command (location : Location) (command : Command) (argument : Argument)
  | analogRead (location : Location) (samples : List UInt32)
  /-- Rehearse an operation on one of the monitors, past the registry. -/
  | operate (driver : Nat) (operation : Monitor.Rehearsal.Operation)

inductive TrialOutcome
  | registered (result : Except Fault UInt16)
  | found (number : Option UInt16)
  | resolved (result : Except Fault Location)
  | replied (reply : Reply)
  /-- The result of a read, and the buffer afterwards. -/
  | read (result : Except Fault Unit) (samples : List UInt32)
  | operated (progress : Option (Monitor.Machine.Progress Monitor.Rehearsal.Value))

/-- A registry, and the bench with its drivers. A driver is registered by its position. -/
structure Trials where
  registry : Registry Nat
  bench : Bench

namespace Trials

/-- Carry out one trial. The record of what the scripted drivers receive begins anew. -/
def carryOut (trial : Trial) (trials : Trials) : TrialOutcome × Trials :=
  let registry := trials.registry
  let bench := { trials.bench with received := [] }
  match trial with
  | .register name driver =>
    let (result, registry) := registry.register name driver
    (.registered result, ⟨registry, bench⟩)
  | .find name => (.found (registry.find? name), ⟨registry, bench⟩)
  | .resolve device subsystem subchannel =>
    let (result, bench) := (registry.resolve Bench.invoke device subsystem subchannel).run bench
    (.resolved result, ⟨registry, bench⟩)
  | .command location command argument =>
    let (reply, bench) := registry.command Bench.invoke location command argument bench
    (.replied reply, ⟨registry, bench⟩)
  | .analogRead location samples =>
    let ((result, after), bench) := registry.analogRead Bench.invoke location samples bench
    (.read result after, ⟨registry, bench⟩)
  | .operate driver operation =>
    let (progress, bench) := bench.operate driver operation
    (.operated progress, ⟨registry, bench⟩)

/-- Carry out trials one after the other, and answer how each of them went. -/
def carryOutAll (trials : Trials) : List Trial → List (TrialOutcome × Trials)
  | [] => []
  | trial :: rest =>
    let (outcome, trials) := trials.carryOut trial
    (outcome, trials) :: trials.carryOutAll rest

end Trials

end BoardSupport.Device
