/-
This file holds what the firmware writes to its log.
-/

import BoardSupport.Target

namespace BoardSupport.Board

inductive LogLevel
  | debug
  | info
  | error
  deriving DecidableEq, Repr

def LogLevel.name : LogLevel → String
  | debug => "debug"
  | info => "info"
  | error => "error"

inductive LogEntry
  | formatted (device volume : String) (sectorSize sectorCount : Nat)
  | mounted (mountPoint : String)
  | entered (target : Target) (uptimeMillis : Int) (type : ResetType) (subtype : ResetSubtype)
      (mode : UInt32) (path : String)
  | monitorNotStarted (status : Int32)
  | exited (code : Int32)
  deriving DecidableEq, Repr

namespace LogEntry

def level : LogEntry → LogLevel
  | formatted .. | mounted .. => .debug
  | entered .. => .info
  | monitorNotStarted .. | exited .. => .error

/-- A number in base sixteen, with its customary mark. -/
def hexadecimal (number : Nat) : String := "0x" ++ String.ofList (Nat.toDigits 16 number)

def text : LogEntry → String
  | formatted device volume sectorSize sectorCount =>
    s!"board: mkfs {device} ({volume}) {sectorCount}x{sectorSize}"
  | mounted mountPoint => s!"board: mounted at {mountPoint}"
  | entered target uptimeMillis type subtype mode path =>
    s!"board: {target.processorName} (cpu {target.processorNumber}, " ++
      s!"sc {hexadecimal target.spacecraftNumber.toNat}) up {uptimeMillis} ms, " ++
      s!"reset {type.name}/{subtype.name}, mode {mode}, script {path}"
  | monitorNotStarted status => s!"board: load monitor did not start ({status.toInt})"
  | exited code => s!"board: application exit ({code.toInt})"

end LogEntry

end BoardSupport.Board
