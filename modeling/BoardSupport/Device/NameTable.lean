/-
This file holds tables of names. A device numbers its subsystems and
subchannels, and a table gives each its name: the number of a name is the
position of its first occurrence, as far as sixteen bits can say.
-/

import BoardSupport.Status

namespace BoardSupport.Device

structure NameTable where
  names : List String
  deriving DecidableEq, Repr

namespace NameTable

/-- Position of the first occurrence of a name. -/
def position? (table : NameTable) (name : String) : Option Nat :=
  table.names.findIdx? fun entry => entry = name

/-- The number of a name: its position, reduced to sixteen bits. -/
def lookup (table : NameTable) (name : String) : Option UInt16 :=
  (table.position? name).map UInt16.ofNat

/-- The number of a name as the outcome of a request; an unknown name is not implemented. -/
def number (table : NameTable) (name : String) : Except Fault UInt32 :=
  match table.lookup name with
  | some index => .ok index.toUInt32
  | none => .error .notImplemented

end NameTable

end BoardSupport.Device
