/-
This file holds the registry of devices. It has a fixed number of slots, filled
from the front in the order in which devices are registered, and a device's
number is its slot; no two devices share a name. A channel is found by three
names: the device by the registry, and the other two by asking the device
itself. Afterwards commands go to the numeric location. The drivers behind the
devices are left open: `invoke` says how a command reaches one, and may change
whatever state the drivers keep.
-/

import BoardSupport.Device.Argument
import BoardSupport.Device.Command

namespace BoardSupport.Device

/-- The numeric address of a channel. -/
structure Location where
  device : UInt16
  subsystem : UInt16
  subchannel : UInt16
  deriving DecidableEq, Repr

/-- Slots for named devices, and how many devices there are. -/
structure Registry (Driver : Type) where
  slots : List (Option (String × Driver))
  count : Nat

namespace Registry

variable {Driver World : Type}

def empty (capacity : Nat) : Registry Driver := ⟨List.replicate capacity none, 0⟩

def capacity (registry : Registry Driver) : Nat := registry.slots.length

def size (registry : Registry Driver) : Nat := registry.count

def isEmpty (registry : Registry Driver) : Bool := registry.count = 0

/-- Whether a slot holds the device of a name. -/
def isNamed (name : String) : Option (String × Driver) → Bool
  | some device => device.1 = name
  | none => false

/-- The number of a named device: its position among the slots that are in use, reduced to sixteen
bits. -/
def find? (registry : Registry Driver) (name : String) : Option UInt16 :=
  ((registry.slots.take registry.count).findIdx? (isNamed name)).map UInt16.ofNat

/-- The driver in the slot of a number, in use or not. -/
def driver? (registry : Registry Driver) (device : UInt16) : Option Driver :=
  registry.slots[device.toNat]?.join.map Prod.snd

/-- Register a driver under a name and answer its device number. A full registry refuses, and so
does one that knows the name already. -/
def register (registry : Registry Driver) (name : String) (driver : Driver) :
    Except Fault UInt16 × Registry Driver :=
  if registry.count < registry.capacity ∧ registry.find? name = none then
    (.ok (UInt16.ofNat registry.count),
      { slots := registry.slots.set registry.count (some (name, driver))
        count := registry.count + 1 })
  else (.error .failed, registry)

/-! ### Commands -/

/-- How a command reaches a driver. -/
abbrev Invoke (Driver World : Type) := Driver → Invocation → StateM World Reply

/-- Send a command to the channel at a location. A number that no device has is a failure, and
no driver hears of it. -/
def command (registry : Registry Driver) (invoke : Invoke Driver World) (location : Location)
    (command : Command) (argument : Argument) : StateM World Reply :=
  match registry.driver? location.device with
  | some driver =>
    invoke driver ⟨command.code, location.subsystem, location.subchannel, argument⟩
  | none => pure (.refusal .failed argument)

/-- A status word as a subsystem or subchannel number. Words that no sixteen-bit number has,
the negative ones among them, are a failure. -/
def numberOfStatus (status : Int32) : Except Fault UInt16 :=
  if 0 ≤ status ∧ status ≤ 0xFFFF then .ok status.toUInt32.toUInt16 else .error .failed

/-- Ask a driver for the number of a name. Look-ups are commands of the device as a whole, so they
go to subsystem zero. -/
def askNumber (invoke : Invoke Driver World) (driver : Driver) (lookup : Command)
    (name : String) : ExceptT Fault (StateM World) UInt16 :=
  ExceptT.mk do
    let reply ← invoke driver ⟨lookup.code, 0, 0, .text name⟩
    return numberOfStatus reply.status

/-- The location of a channel given by its names. -/
def resolve (registry : Registry Driver) (invoke : Invoke Driver World)
    (device subsystem subchannel : String) : ExceptT Fault (StateM World) Location := do
  let some number := registry.find? device | throw .failed
  let some driver := registry.driver? number | throw .failed
  let subsystemNumber ← askNumber invoke driver .lookupSubsystem subsystem
  let subchannelNumber ← askNumber invoke driver .lookupSubchannel subchannel
  return ⟨number, subsystemNumber, subchannelNumber⟩

/-- Read one sample per slot of the buffer, from consecutive channels that start at a location.
The buffer comes back in either case, as the driver left it. -/
def analogRead (registry : Registry Driver) (invoke : Invoke Driver World) (location : Location)
    (samples : List UInt32) : StateM World (Except Fault Unit × List UInt32) := do
  let reply ← registry.command invoke location .analogRead
    (.channels (.ofSamples samples))
  let after := match reply.argument with
    | .channels transfer => transfer.samples
    | _ => samples
  if reply.status < 0 then return (.error (.ofCode reply.status), after)
  else return (.ok (), after)

theorem run_bind_world {First Second : Type} (program : StateM World First)
    (next : First → StateM World Second) (world : World) :
    (program >>= next) world = next (program world).1 (program world).2 := rfl

theorem capacity_empty (capacity : Nat) : (empty capacity : Registry Driver).capacity = capacity :=
  List.length_replicate

end Registry

end BoardSupport.Device
