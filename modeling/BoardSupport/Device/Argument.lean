/-
This file holds what travels with a command and what comes back. Two kinds of
argument are slots that the device may fill: the direction of a channel, and a
buffer of samples together with the number of channels asked for. A reply
therefore carries the argument as the device left it beside the status word.
-/

import BoardSupport.Status

namespace BoardSupport.Device

/-- Which way the signal of a channel may flow. -/
inductive Direction
  | disabled
  | inputOnly
  | outputOnly
  | inputOrOutput
  | inputAndOutput
  deriving DecidableEq, Repr

/-! ### Sample buffers -/

/-- A request for consecutive channels, starting at the addressed one, with a buffer for their
samples. The buffer may be shorter or longer than the request. -/
structure ChannelTransfer where
  channels : UInt32
  samples : List UInt32
  deriving DecidableEq, Repr

namespace ChannelTransfer

/-- Number of channels that a buffer of the given length has room for, as far as 32 bits can
say. -/
def channelCount (length : Nat) : UInt32 :=
  if length < UInt32.size then UInt32.ofNat length else 0xFFFFFFFF

/-- A request for as many channels as the buffer has slots. -/
def ofSamples (samples : List UInt32) : ChannelTransfer :=
  ⟨channelCount samples.length, samples⟩

/-- The slots of the channels asked for; none when the buffer is too short. -/
def requested (transfer : ChannelTransfer) : Option (List UInt32) :=
  if transfer.channels.toNat ≤ transfer.samples.length then
    some (transfer.samples.take transfer.channels.toNat)
  else none

/-- Fill the requested slots, each from its position and its old content. The rest of the
buffer stays; none when the buffer is too short. -/
def fill (transfer : ChannelTransfer) (content : Nat → UInt32 → UInt32) :
    Option ChannelTransfer :=
  transfer.requested.map fun slots =>
    { transfer with
      samples := slots.mapIdx content ++ transfer.samples.drop transfer.channels.toNat }

end ChannelTransfer

/-! ### Arguments and replies -/

/-- What travels with a command. -/
inductive Argument
  | none
  | number (value : UInt32)
  | text (content : String)
  | direction (slot : Direction)
  | channels (transfer : ChannelTransfer)
  deriving DecidableEq, Repr

namespace Argument

def number? : Argument → Option UInt32
  | number value => some value
  | _ => Option.none

def text? : Argument → Option String
  | text content => some content
  | _ => Option.none

end Argument

/-- A command on its way to a device. The command travels as a raw word, which may stand for no
command at all. -/
structure Invocation where
  command : UInt32
  subsystem : UInt16
  subchannel : UInt16
  argument : Argument
  deriving DecidableEq, Repr

structure Reply where
  /-- A value, or the negative code of a fault. -/
  status : Int32
  /-- The argument of the command, with its slots as the device left them. -/
  argument : Argument
  deriving DecidableEq, Repr

/-- The reply that refuses a command and leaves its argument alone. -/
def Reply.refusal (fault : Fault) (argument : Argument) : Reply :=
  ⟨fault.code, argument⟩

end BoardSupport.Device
