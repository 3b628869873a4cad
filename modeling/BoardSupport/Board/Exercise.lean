/-
This file exercises the firmware's services one by one, in any order, without
the start-up sequence that would normally call them.
-/

import BoardSupport.Board.Firmware

namespace BoardSupport.Board

open Monitor (Machine Session)

/-- One thing to do with the firmware. -/
inductive Exercise
  | apiInit
  | reservedMap
  | makeDisk (device volume : String) (sectorSize sectorCount : Nat)
  | mount (mountPoint : String)
  | create
  | write (content : List UInt8)
  | close
  | moduleInit
  | setup
  | reservedInit (type : ResetType)
  | readDisk (offset length : Nat)
  | resetCause
  | target
  | systemMain (type : ResetType) (subtype : ResetSubtype) (mode : UInt32) (path : String)
  | exit (code : Int32)
  | board (operation : Operation)

/-- What an exercise comes to. -/
inductive ExerciseOutcome
  | served (result : Except Int32 Unit)
  | created (result : Except Int32 Nat)
  /-- The number of bytes written, and the file afterwards. -/
  | wrote (result : Except Int32 Nat) (file : Nat)
  | bytes (content : List UInt8)
  | cause (cause : ResetCause)
  | identity (target : Target)
  /-- The firmware has come to an end, or has returned although it should not. -/
  | ended (ending : Option Ending)
  | board (progress : Machine.Progress Value)

/-- Firmware, and the file that is in use. -/
structure Exercised where
  firmware : Firmware
  file : Nat

namespace Exercised

/-- Call a service without a result. -/
def serve (exercised : Exercised) (service : Startup.Service Firmware Unit) :
    ExerciseOutcome × Exercised :=
  let (result, firmware) := service.run exercised.firmware
  (.served result, { exercised with firmware })

/-- Do something that ends the firmware. -/
def finish (exercised : Exercised) (last : StateM Firmware Unit) : ExerciseOutcome × Exercised :=
  let firmware := (last exercised.firmware).2
  (.ended firmware.ending, { exercised with firmware })

def carryOut (exercise : Exercise) (exercised : Exercised) : ExerciseOutcome × Exercised :=
  let services := Firmware.services
  let firmware := exercised.firmware
  match exercise with
  | .apiInit => exercised.serve services.apiInit
  | .reservedMap => exercised.serve services.reservedMap
  | .makeDisk device volume sectorSize sectorCount =>
    exercised.serve (services.makeDisk device volume sectorSize sectorCount)
  | .mount mountPoint => exercised.serve (services.mount Settings.diskDevice mountPoint)
  | .create =>
    match (services.create Settings.scriptPath).run firmware with
    | (.ok file, firmware) => (.created (.ok file), { firmware, file })
    | (.error code, firmware) => (.created (.error code), { exercised with firmware })
  | .write content =>
    let ((result, file), firmware) := services.write exercised.file content firmware
    (.wrote result file, { firmware, file })
  | .close => exercised.serve (services.close exercised.file)
  | .moduleInit => exercised.serve services.moduleInit
  | .setup => exercised.serve services.setup
  | .reservedInit type => exercised.serve (services.reservedInit type)
  | .readDisk offset length => (.bytes (firmware.disk.read offset length), exercised)
  | .resetCause => (.cause (services.resetCause firmware), exercised)
  | .target => (.identity firmware.support.target, exercised)
  | .systemMain type subtype mode path =>
    exercised.finish (services.systemMain type subtype mode path)
  | .exit code => exercised.finish (services.applicationExit code)
  | .board operation =>
    let (progress, session) := operate operation firmware.session
    let ending := match progress with
      | .abandoned => some .halted
      | _ => firmware.ending
    (.board progress, { exercised with firmware := { firmware with session, ending } })

/-- Carry out one exercise with an allowance of its own and empty records. -/
def carryOutWith (allowance : Allowance) (exercise : Exercise) (exercised : Exercised) :
    ExerciseOutcome × Exercised :=
  let session := exercised.firmware.session
  carryOut exercise
    { exercised with
      firmware :=
        { exercised.firmware with
          session := { session with state := session.state.grant allowance, journal := [] }
          log := [] } }

/-- Carry out exercises one after the other, and answer how each of them went. Nothing follows the
end of the firmware. -/
def carryOutAll (exercised : Exercised) :
    List (Allowance × Exercise) → List (ExerciseOutcome × Exercised)
  | [] => []
  | (allowance, exercise) :: rest =>
    let (outcome, exercised) := exercised.carryOutWith allowance exercise
    match exercised.firmware.ending with
    | some _ => [(outcome, exercised)]
    | none => (outcome, exercised) :: exercised.carryOutAll rest

end Exercised

end BoardSupport.Board
