/-
This file holds an operating system on which start-up is rehearsed. It is told
in advance which stages fail with which status, how many bytes a write claims
to have written, and what caused the reset.
-/

import BoardSupport.Startup.Trace

namespace BoardSupport.Startup

/-- What an operating system will do during a rehearsal of start-up. -/
structure Plan where
  cause : ResetCause
  /-- Stages that fail, with their status. -/
  failing : List (Stage × Int32)
  /-- The number of bytes that a write claims; all of them if nothing is said. -/
  claimed : Option Nat

namespace Plan

def failure? (plan : Plan) (stage : Stage) : Option Int32 :=
  (plan.failing.find? fun entry => entry.1 = stage).map Prod.snd

/-- A stage that fails if the plan says so. -/
def stage {State Result : Type} (plan : Plan) (stage : Stage) (result : Result) :
    Service State Result :=
  match plan.failure? stage with
  | some code => throw code
  | none => pure result

/-- The number of the script's file right after it was created. -/
def newFile : Nat := 7

/-- The operating system of a plan. It remembers what was last written without failing; a write that
does not fail moves its file on by one. -/
def services (plan : Plan) : Services (List UInt8) Nat where
  apiInit := plan.stage .apiInit ()
  reservedMap := plan.stage .reservedMap ()
  makeDisk _ _ _ _ := plan.stage .makeDisk ()
  mount _ _ := plan.stage .mount ()
  create _ := plan.stage .createScript newFile
  write file content := do
    match plan.failure? .writeScript with
    | some code => return (.error code, file)
    | none =>
      set content
      return (.ok (plan.claimed.getD content.length), file + 1)
  close _ := plan.stage .closeScript ()
  moduleInit := plan.stage .moduleInit ()
  setup := plan.stage .setup ()
  resetCause _ := plan.cause
  reservedInit _ := plan.stage .reservedInit ()
  systemMain _ _ _ _ := pure ()
  applicationExit _ := pure ()

/-- Rehearse the start-up sequence, with or without giving up on failure. -/
def rehearse (plan : Plan) (target : Target) (givingUp : Bool) :
    Except Failure Unit × Traced (List UInt8) Nat :=
  let traced : Traced (List UInt8) Nat := ⟨[], []⟩
  if givingUp then plan.services.traced.startApplication target traced
  else (plan.services.traced.start target).run traced

end Plan

/-- A sum over the bytes of a content in which their order counts. -/
def checksum (content : List UInt8) : UInt32 :=
  content.foldl (fun sum byte => sum * 31 + byte.toUInt32) 0

end BoardSupport.Startup
