/-
This file holds the start-up sequence, from reset to the entry of the flight
software. Ten stages must succeed one after the other: the system's interface,
the map of reserved memory, the start-up disk, its mount, creating, writing
and closing the start-up script, the modules, the board's own set-up and the
reserved memory. The first failure ends the sequence, with one exception: a
script that could not be written is still closed.
-/

import BoardSupport.Status
import BoardSupport.Target

namespace BoardSupport.Startup

inductive Stage
  | apiInit
  | reservedMap
  | makeDisk
  | mount
  | createScript
  | writeScript
  | closeScript
  | moduleInit
  | setup
  | reservedInit
  deriving DecidableEq, Repr

def Stage.description : Stage → String
  | apiInit => "OS API init"
  | reservedMap => "reserved memory map"
  | makeDisk => "mkfs"
  | mount => "mount"
  | createScript => "create startup file"
  | writeScript => "write startup file"
  | closeScript => "close startup file"
  | moduleInit => "module init"
  | setup => "setup"
  | reservedInit => "reserved memory init"

/-- The stage at which start-up failed, and the status it failed with. -/
structure Failure where
  stage : Stage
  code : Int32
  deriving DecidableEq, Repr

def Failure.message (failure : Failure) : String :=
  failure.stage.description ++ " failed with status " ++ toString failure.code.toInt

/-- A service of the operating system: it changes the system's state, and fails with a status of
the system's own. -/
abbrev Service (State Result : Type) := ExceptT Int32 (StateM State) Result

/-- What start-up asks of the operating system and the board. -/
structure Services (State File : Type) where
  apiInit : Service State Unit
  reservedMap : Service State Unit
  makeDisk (device volume : String) (sectorSize sectorCount : Nat) : Service State Unit
  mount (device mountPoint : String) : Service State Unit
  create (path : String) : Service State File
  /-- Write to a file. The answer is the number of bytes written; the file is changed whether or not
  the write succeeds. -/
  write (file : File) (content : List UInt8) : StateM State (Except Int32 Nat × File)
  close (file : File) : Service State Unit
  moduleInit : Service State Unit
  setup : Service State Unit
  resetCause (state : State) : ResetCause
  reservedInit (type : ResetType) : Service State Unit
  systemMain (type : ResetType) (subtype : ResetSubtype) (mode : UInt32) (path : String) :
    StateM State Unit
  /-- Give up with a status. -/
  applicationExit (code : Int32) : StateM State Unit

namespace Services

variable {State File : Type}

/-- Run a service as a stage of the sequence. -/
def atStage {Result : Type} (stage : Stage) (service : Service State Result) :
    ExceptT Failure (StateM State) Result :=
  service.adapt fun code => ⟨stage, code⟩

/-- What a write of `length` bytes comes to: fewer or more bytes than that are a failure too. -/
def writeResult (length : Nat) : Except Int32 Nat → Except Int32 Unit
  | .ok written => if written = length then .ok () else .error Fault.failed.code
  | .error code => .error code

/-- Install the start-up script. The file is closed even if writing it failed, and the failed write
is then what is reported. -/
def installScript (services : Services State File) (script : List UInt8) :
    ExceptT Failure (StateM State) Unit := do
  let file ← atStage .createScript (services.create Settings.scriptPath)
  let (written, file) ← services.write file script
  let closed ← services.close file |>.run
  atStage .writeScript (ExceptT.mk (pure (writeResult script.length written)))
  atStage .closeScript (ExceptT.mk (pure closed))

/-- The start-up sequence, up to and including the entry of the flight software. -/
def start (services : Services State File) (target : Target) :
    ExceptT Failure (StateM State) Unit := do
  atStage .apiInit services.apiInit
  atStage .reservedMap services.reservedMap
  atStage .makeDisk (services.makeDisk Settings.diskDevice Settings.diskVolume
    Settings.sectorSize Settings.sectorCount)
  atStage .mount (services.mount Settings.diskDevice Settings.mountPoint)
  services.installScript target.script
  atStage .moduleInit services.moduleInit
  atStage .setup services.setup
  let (type, subtype) := (services.resetCause (← get)).classify
  atStage .reservedInit (services.reservedInit type)
  services.systemMain type subtype Settings.startupMode Settings.scriptPath

/-- Start, and give up with the status of the failing stage if that fails. -/
def startApplication (services : Services State File) (target : Target) :
    StateM State (Except Failure Unit) := do
  match ← services.start target |>.run with
  | .ok () => return .ok ()
  | .error failure =>
    services.applicationExit failure.code
    return .error failure

end Services

end BoardSupport.Startup
