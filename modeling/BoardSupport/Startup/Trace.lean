/-
This file lets the start-up sequence be watched. `Services.traced` keeps a
record of every call beside the system's own state and changes nothing else; a
call is recorded before it is made, so a call that fails is in the record too.
-/

import BoardSupport.Startup.Sequence

namespace BoardSupport.Startup

/-- A call to the operating system during start-up. Asking for the reset cause changes nothing and
is not recorded. -/
inductive Call (File : Type)
  | apiInit
  | reservedMap
  | makeDisk (device volume : String) (sectorSize sectorCount : Nat)
  | mount (device mountPoint : String)
  | create (path : String)
  | write (file : File) (content : List UInt8)
  | close (file : File)
  | moduleInit
  | setup
  | reservedInit (type : ResetType)
  | systemMain (type : ResetType) (subtype : ResetSubtype) (mode : UInt32) (path : String)
  | applicationExit (code : Int32)

/-- A system together with the calls made to it so far, newest first. -/
structure Traced (State File : Type) where
  state : State
  calls : List (Call File)

namespace Traced

variable {State File Result : Type}

/-- Record a call and make it. -/
def perform (call : Call File) (service : StateM State Result) :
    StateM (Traced State File) Result := fun traced =>
  let (result, state) := service traced.state
  (result, ⟨state, call :: traced.calls⟩)

def request (call : Call File) (service : Service State Result) :
    Service (Traced State File) Result :=
  ExceptT.mk (perform call service.run)

end Traced

/-- The same services with a record of the calls. -/
def Services.traced {State File : Type} (services : Services State File) :
    Services (Traced State File) File where
  apiInit := Traced.request .apiInit services.apiInit
  reservedMap := Traced.request .reservedMap services.reservedMap
  makeDisk device volume sectorSize sectorCount :=
    Traced.request (.makeDisk device volume sectorSize sectorCount)
      (services.makeDisk device volume sectorSize sectorCount)
  mount device mountPoint :=
    Traced.request (.mount device mountPoint) (services.mount device mountPoint)
  create path := Traced.request (.create path) (services.create path)
  write file content := Traced.perform (.write file content) (services.write file content)
  close file := Traced.request (.close file) (services.close file)
  moduleInit := Traced.request .moduleInit services.moduleInit
  setup := Traced.request .setup services.setup
  resetCause traced := services.resetCause traced.state
  reservedInit type := Traced.request (.reservedInit type) (services.reservedInit type)
  systemMain type subtype mode path :=
    Traced.perform (.systemMain type subtype mode path)
      (services.systemMain type subtype mode path)
  applicationExit code := Traced.perform (.applicationExit code) (services.applicationExit code)

end BoardSupport.Startup
