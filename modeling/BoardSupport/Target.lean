/-
This file holds what a board is told about itself when its image is built: who
it is, and the script that starts its flight software.
-/

import BoardSupport.Reset
import BoardSupport.Settings

namespace BoardSupport

/-- The identity of a board. -/
structure Target where
  processorNumber : UInt32
  processorName : String
  spacecraftNumber : UInt32
  /-- The start-up script, installed on every boot. -/
  script : List UInt8
  deriving DecidableEq, Repr

/-- The identity of a board that was told nothing but its script. -/
def Target.ofScript (script : List UInt8) : Target where
  processorNumber := Settings.processorNumber
  processorName := Settings.processorName
  spacecraftNumber := Settings.spacecraftNumber
  script := script

/-- A board that knows its identity and why it was reset. -/
structure Support where
  target : Target
  cause : ResetCause
  deriving DecidableEq, Repr

/-- What a board asks of its hardware when it is to be restarted. -/
def Support.restart (_ : Support) (type : ResetType) : HardwareReset := .ofType type

end BoardSupport
