/-
This file follows the start-up sequence call by call, against an operating system of
which nothing is assumed. `Services.observed` keeps every call with the answer it got
and changes nothing else: services that mirror each other start up alike. What the
calls of every run have in common is collected in `Boots`: they come in one order, the
first failure ends them and is the result, and a script that could not be written is
closed all the same. The proof goes along the sequence with what holds while nothing
has failed, `Fine`: a stage either carries it on or ends the run.
-/

import Mathlib.Data.List.Nodup
import BoardSupport.Startup.Trace

namespace BoardSupport.Startup

variable {State File : Type}

/-! ### Calls with their answers -/

inductive Answer (File : Type)
  | status (result : Except Int32 Unit)
  | file (result : Except Int32 File)
  /-- The number of bytes written, and the file as the write has left it. -/
  | written (result : Except Int32 Nat) (left : File)
  | nothing

structure Exchange (State File : Type) where
  call : Call File
  /-- The system at the moment of the call. -/
  state : State
  answer : Answer File

/-- A system together with the calls made to it so far and their answers, oldest first. -/
structure Observed (State File : Type) where
  state : State
  exchanges : List (Exchange State File)

namespace Observed

def perform {Result : Type} (call : Call File) (answer : Result → Answer File)
    (service : StateM State Result) : StateM (Observed State File) Result := fun observed =>
  let (result, state) := service observed.state
  (result, ⟨state, observed.exchanges ++ [⟨call, observed.state, answer result⟩]⟩)

def request {Result : Type} (call : Call File) (answer : Except Int32 Result → Answer File)
    (service : Service State Result) : Service (Observed State File) Result :=
  ExceptT.mk (perform call answer service.run)

end Observed

/-- The same services with a record of the calls and their answers. -/
def Services.observed (services : Services State File) : Services (Observed State File) File where
  apiInit := Observed.request .apiInit .status services.apiInit
  reservedMap := Observed.request .reservedMap .status services.reservedMap
  makeDisk device volume sectorSize sectorCount :=
    Observed.request (.makeDisk device volume sectorSize sectorCount) .status
      (services.makeDisk device volume sectorSize sectorCount)
  mount device mountPoint :=
    Observed.request (.mount device mountPoint) .status (services.mount device mountPoint)
  create path := Observed.request (.create path) .file (services.create path)
  write file content :=
    Observed.perform (.write file content) (fun written => .written written.1 written.2)
      (services.write file content)
  close file := Observed.request (.close file) .status (services.close file)
  moduleInit := Observed.request .moduleInit .status services.moduleInit
  setup := Observed.request .setup .status services.setup
  resetCause observed := services.resetCause observed.state
  reservedInit type :=
    Observed.request (.reservedInit type) .status (services.reservedInit type)
  systemMain type subtype mode path :=
    Observed.perform (.systemMain type subtype mode path) (fun _ => .nothing)
      (services.systemMain type subtype mode path)
  applicationExit code :=
    Observed.perform (.applicationExit code) (fun _ => .nothing) (services.applicationExit code)

/-! ### What the calls of a run have in common -/

def Stage.all : List Stage :=
  [.apiInit, .reservedMap, .makeDisk, .mount, .createScript, .writeScript, .closeScript,
    .moduleInit, .setup, .reservedInit]

/-- What a call is for: one of the stages, the entry of the flight software, or giving up. -/
inductive Step
  | stage (stage : Stage)
  | enter
  | exit
  deriving DecidableEq

/-- The steps of a start-up in which nothing fails. -/
def Step.all : List Step := Stage.all.map .stage ++ [.enter]

def Call.step : Call File → Step
  | apiInit => .stage .apiInit
  | reservedMap => .stage .reservedMap
  | makeDisk .. => .stage .makeDisk
  | mount .. => .stage .mount
  | create _ => .stage .createScript
  | write .. => .stage .writeScript
  | close _ => .stage .closeScript
  | moduleInit => .stage .moduleInit
  | setup => .stage .setup
  | reservedInit _ => .stage .reservedInit
  | systemMain .. => .enter
  | applicationExit _ => .exit

namespace Exchange

def step (exchange : Exchange State File) : Step := exchange.call.step

/-- The code that a call failed with. A write fails on every count but the length of its content. -/
def code? (exchange : Exchange State File) : Option Int32 :=
  match exchange.answer, exchange.call with
  | .written (.ok count) _, .write _ content => if count = content.length then none else some (-1)
  | .written (.error code) _, _ => some code
  | .status (.error code), _ => some code
  | .file (.error code), _ => some code
  | _, _ => none

/-- The failure that a call came to, with the stage that the call is for. -/
def failure? (exchange : Exchange State File) : Option Failure :=
  match exchange.step with
  | .stage stage => exchange.code?.map fun code => ⟨stage, code⟩
  | _ => none

/-- What a call is made with, given the calls that were made. The file that is written is the one
that was created, and the file that is closed is the one that the write has left. The reset is
classified by its cause at the moment when reserved memory is prepared: its type is a power-on reset
exactly if the supply was interrupted, and is handed on together with the subtype of the cause. -/
def Asked (services : Services State File) (target : Target)
    (made : List (Exchange State File)) (exchange : Exchange State File) : Prop :=
  match exchange.call with
  | .makeDisk device volume sectorSize sectorCount =>
    device = Settings.diskDevice ∧ volume = Settings.diskVolume ∧
      sectorSize = Settings.sectorSize ∧ sectorCount = Settings.sectorCount
  | .mount device mountPoint => device = Settings.diskDevice ∧ mountPoint = Settings.mountPoint
  | .create path => path = Settings.scriptPath
  | .write file content =>
    content = target.script ∧
      ∃ creating ∈ made, creating.step = .stage .createScript ∧ creating.answer = .file (.ok file)
  | .close file =>
    ∃ writing ∈ made, writing.step = .stage .writeScript ∧
      ∃ result, writing.answer = .written result file
  | .reservedInit type =>
    type = (services.resetCause exchange.state).classify.1 ∧
      (type = .powerOn ↔ services.resetCause exchange.state = .powerOn ∨
        services.resetCause exchange.state = .brownout)
  | .systemMain type subtype mode path =>
    mode = Settings.startupMode ∧ path = Settings.scriptPath ∧
      ∃ reserving ∈ made, reserving.call = .reservedInit type ∧
        (services.resetCause reserving.state).classify = (type, subtype) ∧
        (services.resetCause reserving.state).Classified type subtype
  | .applicationExit _ => False
  | _ => True

theorem failure?_status {call : Call File} {stage : Stage} (step : call.step = .stage stage)
    (state : State) (result : Except Int32 Unit) :
    (⟨call, state, .status result⟩ : Exchange State File).failure? =
      match result with
      | .ok () => none
      | .error code => some ⟨stage, code⟩ := by
  cases result <;> simp [failure?, Exchange.step, step, code?]

theorem failure?_write (file left : File) (content : List UInt8) (state : State)
    (result : Except Int32 Nat) :
    (⟨.write file content, state, .written result left⟩ : Exchange State File).failure? =
      match Services.writeResult content.length result with
      | .ok () => none
      | .error code => some ⟨.writeScript, code⟩ := by
  cases result with
  | error code => rfl
  | ok count =>
    by_cases whole : count = content.length
    · simp [failure?, Exchange.step, Call.step, code?, Services.writeResult, whole]
    · simp [failure?, Exchange.step, Call.step, code?, Services.writeResult, whole, Fault.code]

theorem step_of_failure? {exchange : Exchange State File} {failure : Failure}
    (failed : exchange.failure? = some failure) : exchange.step = .stage failure.stage := by
  unfold failure? at failed
  split at failed
  case h_1 stage step =>
    obtain ⟨code, _, rfl⟩ := Option.map_eq_some_iff.mp failed
    exact step
  case h_2 => cases failed

theorem Asked.mono {services : Services State File} {target : Target}
    {made more : List (Exchange State File)} {exchange : Exchange State File}
    (asked : exchange.Asked services target made) (subset : made ⊆ more) :
    exchange.Asked services target more := by
  rcases exchange with ⟨call, state, answer⟩
  cases call with
  | write file content =>
    obtain ⟨script, creating, member, created⟩ := asked
    exact ⟨script, creating, subset member, created⟩
  | close file =>
    obtain ⟨writing, member, left⟩ := asked
    exact ⟨writing, subset member, left⟩
  | systemMain type subtype mode path =>
    obtain ⟨modeEq, pathEq, reserving, member, reserved⟩ := asked
    exact ⟨modeEq, pathEq, reserving, subset member, reserved⟩
  | _ => exact asked

end Exchange

/-- The steps that may follow a failing call: a script that could not be written is closed. -/
def Step.afterFailing (step : Step) : List Step :=
  if step = .stage .writeScript then [.stage .closeScript] else []

theorem Step.not_entered_afterFailing (step : Step) : .enter ∉ step.afterFailing := by
  unfold Step.afterFailing
  split <;> simp

/-- What the calls of a start-up and its result have to do with each other. -/
structure Boots (services : Services State File) (target : Target)
    (made : List (Exchange State File)) (result : Except Failure Unit) : Prop where
  order : made.map Exchange.step <+: Step.all
  asked : ∀ exchange ∈ made, exchange.Asked services target made
  result_eq : result =
    match made.findSome? Exchange.failure? with
    | some failure => .error failure
    | none => .ok ()
  /-- The first failing call is the last one, or the one before the last if it is the write. -/
  halts : ∀ earlier failing later, made = earlier ++ failing :: later →
    (∀ exchange ∈ earlier, exchange.failure? = none) → failing.failure? ≠ none →
    later.map Exchange.step = failing.step.afterFailing
  entered : (∃ exchange ∈ made, exchange.step = .enter) ↔ result = .ok ()

section Boots

variable {services : Services State File} {target : Target} {made : List (Exchange State File)}
  {result : Except Failure Unit}

theorem Boots.nodup (boots : Boots services target made result) :
    (made.map Exchange.step).Nodup :=
  List.Nodup.sublist boots.order.sublist (by decide)

theorem Boots.not_exited (boots : Boots services target made result) :
    ∀ exchange ∈ made, exchange.step ≠ .exit := by
  intro exchange member exited
  have listed : Step.exit ∈ Step.all :=
    boots.order.subset (exited ▸ List.mem_map_of_mem member)
  simp [Step.all] at listed

end Boots

/-! ### While nothing has failed -/

/-- These stages have been run, and none has failed. -/
structure Fine (services : Services State File) (target : Target) (stages : List Stage)
    (made : List (Exchange State File)) : Prop where
  steps : made.map Exchange.step = stages.map .stage
  quiet : ∀ exchange ∈ made, exchange.failure? = none
  asked : ∀ exchange ∈ made, exchange.Asked services target made

namespace Fine

variable {services : Services State File} {target : Target} {stages : List Stage} {stage : Stage}
  {made : List (Exchange State File)} {exchange : Exchange State File}

theorem nil : Fine services target [] [] := ⟨rfl, by simp, by simp⟩

theorem asked_append (fine : Fine services target stages made)
    {rest : List (Exchange State File)}
    (asked : ∀ exchange ∈ rest, exchange.Asked services target (made ++ rest)) :
    ∀ exchange ∈ made ++ rest, exchange.Asked services target (made ++ rest) := by
  intro exchange member
  rcases List.mem_append.mp member with early | late
  · exact (fine.asked exchange early).mono (List.subset_append_left _ _)
  · exact asked exchange late

theorem extend (fine : Fine services target stages made) (step : exchange.step = .stage stage)
    (quiet : exchange.failure? = none)
    (asked : exchange.Asked services target (made ++ [exchange])) :
    Fine services target (stages ++ [stage]) (made ++ [exchange]) where
  steps := by simp [fine.steps, step]
  quiet := by simpa [or_imp, forall_and, quiet] using fine.quiet
  asked := fine.asked_append (by simpa using asked)

/-- While nothing has failed the flight software has not been entered. -/
theorem step_ne_enter (fine : Fine services target stages made) (member : exchange ∈ made) :
    exchange.step ≠ .enter := by
  intro entered
  have mapped : Step.enter ∈ stages.map Step.stage :=
    fine.steps ▸ entered ▸ List.mem_map_of_mem member
  simp at mapped

theorem findSome?_eq_none (fine : Fine services target stages made) :
    made.findSome? Exchange.failure? = none :=
  List.findSome?_eq_none_iff.mpr fine.quiet

theorem dropWhile_quiet {calls : List (Exchange State File)}
    (quiet : ∀ exchange ∈ calls, exchange.failure? = none) (failed : exchange.failure? ≠ none)
    (others : List (Exchange State File)) :
    (calls ++ exchange :: others).dropWhile (fun exchange => exchange.failure?.isNone) =
      exchange :: others := by
  rw [List.dropWhile_append_of_pos (by simpa using quiet), List.dropWhile_cons_of_neg (by simpa)]

/-- The first failing call is where the calls that did not fail end. -/
theorem first_failing (fine : Fine services target stages made)
    {failing : Exchange State File} {rest : List (Exchange State File)}
    (failed : exchange.failure? ≠ none) {earlier later : List (Exchange State File)}
    (split : made ++ exchange :: rest = earlier ++ failing :: later)
    (quiet : ∀ exchange ∈ earlier, exchange.failure? = none) (failedToo : failing.failure? ≠ none) :
    failing = exchange ∧ later = rest := by
  have same : failing :: later = exchange :: rest := by
    rw [← dropWhile_quiet quiet failedToo later, ← split, dropWhile_quiet fine.quiet failed rest]
  exact List.cons.inj same

/-- A failing call ends the run, after what follows a failing call of its step. -/
theorem breaks (fine : Fine services target stages made) {code : Int32}
    (place : stages.map .stage ++ Step.stage stage :: (Step.stage stage).afterFailing <+: Step.all)
    (failed : exchange.failure? = some ⟨stage, code⟩)
    {rest : List (Exchange State File)}
    (after : rest.map Exchange.step = (Step.stage stage).afterFailing)
    (asked : ∀ call ∈ exchange :: rest, call.Asked services target (made ++ exchange :: rest)) :
    Boots services target (made ++ exchange :: rest) (.error ⟨stage, code⟩) where
  order := by simpa [fine.steps, Exchange.step_of_failure? failed, after] using place
  asked := fine.asked_append asked
  result_eq := by simp [List.findSome?_append, fine.findSome?_eq_none, failed]
  halts := by
    -- The closing after a failed write may fail as well, but it is not the first to fail.
    intro earlier failing later split quiet failedToo
    obtain ⟨rfl, rfl⟩ := fine.first_failing (by simp [failed]) split quiet failedToo
    rw [after, Exchange.step_of_failure? failed]
  entered := by
    have noEntry : ∀ call ∈ rest, call.step ≠ .enter := fun call member entered =>
      (Step.stage stage).not_entered_afterFailing
        (after ▸ entered ▸ List.mem_map_of_mem member)
    simp only [reduceCtorEq, iff_false, not_exists, not_and, List.mem_append, List.mem_cons]
    rintro call (early | rfl | late)
    · exact fine.step_ne_enter early
    · simp [Exchange.step_of_failure? failed]
    · exact noEntry call late

/-- Entering the flight software ends a run in which nothing has failed. -/
theorem enters (fine : Fine services target Stage.all made) (step : exchange.step = .enter)
    (asked : exchange.Asked services target (made ++ [exchange])) :
    Boots services target (made ++ [exchange]) (.ok ()) where
  order := by simp [fine.steps, step, Step.all]
  asked := fine.asked_append (by simpa using asked)
  result_eq := by
    have quiet : exchange.failure? = none := by simp [Exchange.failure?, step]
    simp [List.findSome?_append, fine.findSome?_eq_none, quiet]
  halts := by
    intro earlier failing later split _ failed
    have member : failing ∈ made ++ [exchange] := by simp [split]
    rcases List.mem_append.mp member with early | last
    · exact absurd (fine.quiet failing early) failed
    · simp [List.mem_singleton.mp last, Exchange.failure?, step] at failed
  entered := by simpa using Or.inr step

end Fine

/-! ### Running one stage after the other -/

/-- A failure ends the run, and a success goes on in the state that it has left. -/
theorem run_bind {World First Second : Type} (program : ExceptT Failure (StateM World) First)
    (next : First → ExceptT Failure (StateM World) Second) (world : World) :
    (program >>= next).run world =
      match program.run world with
      | (.ok value, world) => (next value).run world
      | (.error failure, world) => (.error failure, world) := by
  rcases ran : program.run world with ⟨result, after⟩
  have step : (program >>= next).run world =
      (ExceptT.bindCont next (program.run world).1) (program.run world).2 := rfl
  rw [step, ran]
  cases result <;> rfl

theorem run_lift {World Result : Type} (program : StateM World Result) (world : World) :
    (liftM program : ExceptT Failure (StateM World) Result).run world =
      (.ok (program world).1, (program world).2) := rfl

theorem run_atStage {World Result : Type} (stage : Stage) (service : Service World Result)
    (world : World) :
    (Services.atStage stage service).run world =
      ((service.run world).1.mapError fun code => ⟨stage, code⟩, (service.run world).2) := rfl

theorem run_request {Result : Type} (call : Call File)
    (answer : Except Int32 Result → Answer File) (service : Service State Result)
    (observed : Observed State File) :
    (Observed.request call answer service).run observed =
      ((service.run observed.state).1, ⟨(service.run observed.state).2,
        observed.exchanges ++ [⟨call, observed.state, answer (service.run observed.state).1⟩]⟩) :=
  rfl

/-- What the write and the closing come to together: a failed write is reported first. -/
def scriptResult (length : Nat) (written : Except Int32 Nat) (closed : Except Int32 Unit) :
    Except Failure Unit := do
  (Services.writeResult length written).mapError fun code => ⟨.writeScript, code⟩
  closed.mapError fun code => ⟨.closeScript, code⟩

theorem run_installScript {World : Type} (services : Services World File) (script : List UInt8)
    (world : World) :
    (services.installScript script).run world =
      match (services.create Settings.scriptPath).run world with
      | (.error code, world) => (.error ⟨.createScript, code⟩, world)
      | (.ok file, world) =>
        let ((written, left), world) := services.write file script world
        let (closed, world) := (services.close left).run world
        (scriptResult script.length written closed, world) := by
  unfold Services.installScript
  rw [run_bind, run_atStage]
  rcases (services.create Settings.scriptPath).run world with ⟨_ | file, world⟩
  · rfl
  · rcases written : services.write file script world with ⟨⟨result, left⟩, after⟩
    simp only [Except.mapError, run_bind, run_lift, written, run_atStage]
    rcases (services.close left).run after with ⟨closed, last⟩
    unfold scriptResult
    rcases Services.writeResult script.length result with _ | _ <;> rfl

/-- The last part of the sequence: reserved memory is prepared for the type of the reset, and the
flight software is entered. -/
def Services.enter (services : Services State File) : ExceptT Failure (StateM State) Unit := do
  let (type, subtype) := (services.resetCause (← get)).classify
  atStage .reservedInit (services.reservedInit type)
  services.systemMain type subtype Settings.startupMode Settings.scriptPath

theorem run_enter {World : Type} (services : Services World File) (world : World) :
    services.enter.run world =
      let (type, subtype) := (services.resetCause world).classify
      match (services.reservedInit type).run world with
      | (.error code, world) => (.error ⟨.reservedInit, code⟩, world)
      | (.ok (), world) => (.ok (),
          (services.systemMain type subtype Settings.startupMode Settings.scriptPath world).2) := by
  have got : (get : ExceptT Failure (StateM World) World).run world = (.ok world, world) := rfl
  rw [Services.enter, run_bind, got]
  simp only [run_bind, run_atStage, run_lift]
  rcases (services.reservedInit (services.resetCause world).classify.1).run world with
    ⟨_ | _, after⟩ <;> rfl

theorem start_eq (services : Services State File) (target : Target) :
    services.start target = (do
      Services.atStage .apiInit services.apiInit
      Services.atStage .reservedMap services.reservedMap
      Services.atStage .makeDisk (services.makeDisk Settings.diskDevice Settings.diskVolume
        Settings.sectorSize Settings.sectorCount)
      Services.atStage .mount (services.mount Settings.diskDevice Settings.mountPoint)
      services.installScript target.script
      Services.atStage .moduleInit services.moduleInit
      Services.atStage .setup services.setup
      services.enter) := rfl

theorem startApplication_eq {World : Type} (services : Services World File) (target : Target)
    (world : World) :
    services.startApplication target world =
      match (services.start target).run world with
      | (.ok (), world) => (.ok (), world)
      | (.error failure, world) =>
        (.error failure, (services.applicationExit failure.code world).2) := by
  have bound {First Second : Type} (program : StateM World First)
      (next : First → StateM World Second) :
      (program >>= next) world = next (program world).1 (program world).2 := rfl
  unfold Services.startApplication
  rw [bound]
  rcases (services.start target).run world with ⟨_ | _, after⟩ <;> rfl

/-! ### Watching changes nothing -/

section Mirrors

variable {World Shadow : Type} {project : World → Shadow}

/-- A program does what another one does, seen through a projection of its world. -/
def Mirrors {Result : Type} (project : World → Shadow) (program : StateM World Result)
    (shadow : StateM Shadow Result) : Prop :=
  ∀ world, ((program world).1, project (program world).2) = shadow (project world)

/-- Services of which each does what its counterpart does. -/
structure Services.Mirrored (project : World → Shadow) (services : Services World File)
    (shadow : Services Shadow File) : Prop where
  apiInit : Mirrors project services.apiInit.run shadow.apiInit.run
  reservedMap : Mirrors project services.reservedMap.run shadow.reservedMap.run
  makeDisk : ∀ device volume sectorSize sectorCount,
    Mirrors project (services.makeDisk device volume sectorSize sectorCount).run
      (shadow.makeDisk device volume sectorSize sectorCount).run
  mount : ∀ device mountPoint,
    Mirrors project (services.mount device mountPoint).run (shadow.mount device mountPoint).run
  create : ∀ path, Mirrors project (services.create path).run (shadow.create path).run
  write : ∀ file content, Mirrors project (services.write file content) (shadow.write file content)
  close : ∀ file, Mirrors project (services.close file).run (shadow.close file).run
  moduleInit : Mirrors project services.moduleInit.run shadow.moduleInit.run
  setup : Mirrors project services.setup.run shadow.setup.run
  resetCause : ∀ world, services.resetCause world = shadow.resetCause (project world)
  reservedInit : ∀ type,
    Mirrors project (services.reservedInit type).run (shadow.reservedInit type).run
  systemMain : ∀ type subtype mode path,
    Mirrors project (services.systemMain type subtype mode path)
      (shadow.systemMain type subtype mode path)
  applicationExit : ∀ code,
    Mirrors project (services.applicationExit code) (shadow.applicationExit code)

theorem Mirrors.bind {First Second : Type} {program : ExceptT Failure (StateM World) First}
    {shadow : ExceptT Failure (StateM Shadow) First}
    {next : First → ExceptT Failure (StateM World) Second}
    {shadowNext : First → ExceptT Failure (StateM Shadow) Second}
    (first : Mirrors project program.run shadow.run)
    (rest : ∀ value, Mirrors project (next value).run (shadowNext value).run) :
    Mirrors project (program >>= next).run (shadow >>= shadowNext).run := by
  intro world
  rw [run_bind, run_bind, ← first world]
  rcases program.run world with ⟨result, after⟩
  cases result with
  | ok value => exact rest value after
  | error failure => rfl

theorem Mirrors.atStage {Result : Type} {service : Service World Result}
    {shadow : Service Shadow Result} (mirrors : Mirrors project service.run shadow.run)
    (stage : Stage) :
    Mirrors project (Services.atStage stage service).run (Services.atStage stage shadow).run := by
  intro world
  rw [run_atStage, run_atStage, ← mirrors world]

namespace Services.Mirrored

variable {services : Services World File} {shadow : Services Shadow File}

theorem installScript (mirrored : services.Mirrored project shadow) (script : List UInt8) :
    Mirrors project (services.installScript script).run (shadow.installScript script).run := by
  intro world
  rw [run_installScript, run_installScript, ← mirrored.create]
  rcases (services.create Settings.scriptPath).run world with ⟨_ | file, world⟩
  · rfl
  · dsimp only
    rw [← mirrored.write]
    rcases services.write file script world with ⟨⟨result, left⟩, world⟩
    dsimp only
    rw [← mirrored.close]
    rfl

theorem enter (mirrored : services.Mirrored project shadow) :
    Mirrors project services.enter.run shadow.enter.run := by
  intro world
  rw [run_enter, run_enter, mirrored.resetCause]
  dsimp only
  rw [← mirrored.reservedInit]
  rcases (services.reservedInit _).run world with ⟨_ | _, after⟩
  · rfl
  · dsimp only
    rw [← mirrored.systemMain]

theorem start (mirrored : services.Mirrored project shadow) (target : Target) :
    Mirrors project (services.start target).run (shadow.start target).run := by
  rw [start_eq, start_eq]
  refine (mirrored.apiInit.atStage _).bind fun _ => ?_
  refine (mirrored.reservedMap.atStage _).bind fun _ => ?_
  refine ((mirrored.makeDisk _ _ _ _).atStage _).bind fun _ => ?_
  refine ((mirrored.mount _ _).atStage _).bind fun _ => ?_
  refine (mirrored.installScript target.script).bind fun _ => ?_
  refine (mirrored.moduleInit.atStage _).bind fun _ => ?_
  refine (mirrored.setup.atStage _).bind fun _ => ?_
  exact mirrored.enter

theorem startApplication (mirrored : services.Mirrored project shadow) (target : Target) :
    Mirrors project (services.startApplication target) (shadow.startApplication target) := by
  intro world
  rw [startApplication_eq, startApplication_eq, ← mirrored.start target world]
  rcases (services.start target).run world with ⟨failure | _, after⟩
  · dsimp only
    rw [← mirrored.applicationExit]
  · rfl

end Services.Mirrored

end Mirrors

/-- The record of the calls alone. -/
def Observed.traced (observed : Observed State File) : Traced State File :=
  ⟨observed.state, (observed.exchanges.map Exchange.call).reverse⟩

theorem mirrors_perform {Result : Type} (call : Call File) (answer : Result → Answer File)
    (service : StateM State Result) :
    Mirrors Observed.traced (Observed.perform call answer service)
      (Traced.perform call service) := by
  intro observed
  unfold Observed.perform Traced.perform
  rcases performed : service observed.state with ⟨result, state⟩
  simp [Observed.traced, performed]

theorem mirrored_observed (services : Services State File) :
    services.observed.Mirrored Observed.state services where
  apiInit _ := rfl
  reservedMap _ := rfl
  makeDisk _ _ _ _ _ := rfl
  mount _ _ _ := rfl
  create _ _ := rfl
  write _ _ _ := rfl
  close _ _ := rfl
  moduleInit _ := rfl
  setup _ := rfl
  resetCause _ := rfl
  reservedInit _ _ := rfl
  systemMain _ _ _ _ _ := rfl
  applicationExit _ _ := rfl

theorem mirrored_traced (services : Services State File) :
    services.observed.Mirrored Observed.traced services.traced where
  apiInit := mirrors_perform _ _ _
  reservedMap := mirrors_perform _ _ _
  makeDisk _ _ _ _ := mirrors_perform _ _ _
  mount _ _ := mirrors_perform _ _ _
  create _ := mirrors_perform _ _ _
  write _ _ := mirrors_perform _ _ _
  close _ := mirrors_perform _ _ _
  moduleInit := mirrors_perform _ _ _
  setup := mirrors_perform _ _ _
  resetCause _ := rfl
  reservedInit _ := mirrors_perform _ _ _
  systemMain _ _ _ _ := mirrors_perform _ _ _
  applicationExit _ := mirrors_perform _ _ _

/-! ### The sequence, stage by stage -/

/-- After these stages, if none has failed, the program brings start-up to its end. -/
def Continues (services : Services State File) (target : Target) (stages : List Stage)
    (program : ExceptT Failure (StateM (Observed State File)) Unit) : Prop :=
  ∀ observed, Fine services target stages observed.exchanges →
    Boots services target (program.run observed).2.exchanges (program.run observed).1

variable {services : Services State File} {target : Target} {stages : List Stage} {stage : Stage}
  {rest : ExceptT Failure (StateM (Observed State File)) Unit}

theorem continues_stage {call : Call File} (service : Service State Unit)
    (step : call.step = .stage stage)
    (place : stages.map .stage ++ Step.stage stage :: (Step.stage stage).afterFailing <+: Step.all)
    (alone : (Step.stage stage).afterFailing = [])
    (asked : ∀ made state answer, Exchange.Asked services target made ⟨call, state, answer⟩)
    (continues : Continues services target (stages ++ [stage]) rest) :
    Continues services target stages (do
      Services.atStage stage (Observed.request call .status service)
      rest) := by
  intro observed fine
  rw [run_bind, run_atStage, run_request]
  rcases service.run observed.state with ⟨code | _, state⟩
  · show Boots services target
      (observed.exchanges ++ [⟨call, observed.state, .status (.error code)⟩]) (.error ⟨stage, code⟩)
    exact fine.breaks place (Exchange.failure?_status step _ _) alone.symm
      (by simpa using asked _ _ _)
  · exact continues _ (fine.extend step (Exchange.failure?_status step _ _) (asked _ _ _))

/-- The write and the closing after it. The file is closed in any case, and start-up goes on only if
neither has failed. -/
theorem Fine.script {made : List (Exchange State File)} {file : File}
    (created : Fine services target [.apiInit, .reservedMap, .makeDisk, .mount, .createScript] made)
    (source : ∃ creating ∈ made,
      creating.step = .stage .createScript ∧ creating.answer = .file (.ok file))
    (state written : State) (result : Except Int32 Nat) (left : File) (closed : Except Int32 Unit) :
    let writing := ⟨.write file target.script, state, .written result left⟩
    let closing := ⟨.close left, written, .status closed⟩
    match scriptResult target.script.length result closed with
    | .ok () => Fine services target [.apiInit, .reservedMap, .makeDisk, .mount, .createScript,
        .writeScript, .closeScript] (made ++ [writing] ++ [closing])
    | .error failure =>
      Boots services target (made ++ [writing] ++ [closing]) (.error failure) := by
  intro writing closing
  have failureWrite := Exchange.failure?_write file left target.script state result
  have failureClose : closing.failure? = _ := Exchange.failure?_status rfl written closed
  have askedWrite (more : List (Exchange State File)) :
      writing.Asked services target (made ++ more) :=
    have ⟨creating, member, step, answer⟩ := source
    ⟨rfl, creating, List.mem_append_left _ member, step, answer⟩
  have askedClose (more : List (Exchange State File)) :
      closing.Asked services target (made ++ writing :: more) :=
    ⟨writing, by simp, rfl, result, rfl⟩
  have both : made ++ [writing] ++ [closing] = made ++ writing :: [closing] := by simp
  -- Both calls have been made by now; which of them failed only decides how the run goes on.
  unfold scriptResult
  rcases wrote : Services.writeResult target.script.length result with code | _ <;>
    simp only [wrote] at failureWrite
  · show Boots services target (made ++ [writing] ++ [closing]) (.error ⟨.writeScript, code⟩)
    rw [both]
    exact created.breaks (by decide) failureWrite rfl
      (List.forall_mem_cons.mpr ⟨askedWrite _, List.forall_mem_singleton.mpr (askedClose _)⟩)
  · have fine := created.extend rfl failureWrite (askedWrite [writing])
    rcases closed with code | _
    · show Boots services target (made ++ [writing] ++ [closing]) (.error ⟨.closeScript, code⟩)
      refine fine.breaks (by decide) failureClose rfl ?_
      simpa [both] using askedClose [closing]
    · refine fine.extend rfl failureClose ?_
      simpa [both] using askedClose [closing]

theorem continues_installScript
    (continues : Continues services target [.apiInit, .reservedMap, .makeDisk, .mount,
      .createScript, .writeScript, .closeScript] rest) :
    Continues services target [.apiInit, .reservedMap, .makeDisk, .mount] (do
      services.observed.installScript target.script
      rest) := by
  intro observed fine
  rw [run_bind, run_installScript, Services.observed, run_request]
  rcases (services.create Settings.scriptPath).run observed.state with ⟨code | file, state⟩
  · show Boots services target
      (observed.exchanges ++ [⟨.create Settings.scriptPath, observed.state, .file (.error code)⟩])
      (.error ⟨.createScript, code⟩)
    exact fine.breaks (by decide) rfl rfl (by simp [Exchange.Asked])
  · let creating : Exchange State File :=
      ⟨.create Settings.scriptPath, observed.state, .file (.ok file)⟩
    have created : Fine services target [.apiInit, .reservedMap, .makeDisk, .mount, .createScript]
        (observed.exchanges ++ [creating]) := fine.extend rfl rfl rfl
    have source : ∃ made ∈ observed.exchanges ++ [creating],
        made.step = .stage .createScript ∧ made.answer = .file (.ok file) :=
      ⟨creating, by simp, rfl, rfl⟩
    simp only [Observed.perform, run_request]
    rcases services.write file target.script state with ⟨⟨result, left⟩, written⟩
    dsimp only
    rcases (services.close left).run written with ⟨closed, after⟩
    have outcome := created.script source state written result left closed
    rcases final : scriptResult target.script.length result closed with failure | _ <;>
      simp only [final] at outcome
    · exact outcome
    · exact continues _ outcome

theorem continues_enter :
    Continues services target (Stage.all.dropLast) services.observed.enter := by
  intro observed fine
  rw [run_enter, Services.observed]
  simp only [run_request]
  let type := (services.resetCause observed.state).classify.1
  have asked (made : List (Exchange State File)) (answer : Answer File) :
      Exchange.Asked services target made ⟨.reservedInit type, observed.state, answer⟩ :=
    ⟨rfl, classify_powerOn_iff _⟩
  rcases (services.reservedInit type).run observed.state with ⟨code | _, state⟩
  · show Boots services target
      (observed.exchanges ++ [⟨.reservedInit type, observed.state, .status (.error code)⟩])
      (.error ⟨.reservedInit, code⟩)
    exact fine.breaks (by decide) rfl rfl (by simp [asked])
  · let reserving : Exchange State File :=
      ⟨.reservedInit type, observed.state, .status (.ok ())⟩
    have reserved : Fine services target Stage.all (observed.exchanges ++ [reserving]) :=
      fine.extend rfl rfl (asked _ _)
    exact reserved.enters rfl ⟨rfl, rfl, reserving, by simp, rfl, rfl, classified_classify _⟩

theorem boots_start (services : Services State File) (target : Target) (state : State) :
    let (result, observed) := (services.observed.start target).run ⟨state, []⟩
    Boots services target observed.exchanges result := by
  suffices begins : Continues services target [] (services.observed.start target) from
    begins ⟨state, []⟩ Fine.nil
  rw [start_eq]
  refine continues_stage services.apiInit rfl (by decide) rfl (fun _ _ _ => trivial) ?_
  refine continues_stage services.reservedMap rfl (by decide) rfl (fun _ _ _ => trivial) ?_
  refine continues_stage _ rfl (by decide) rfl (fun _ _ _ => ⟨rfl, rfl, rfl, rfl⟩) ?_
  refine continues_stage _ rfl (by decide) rfl (fun _ _ _ => ⟨rfl, rfl⟩) ?_
  refine continues_installScript ?_
  refine continues_stage services.moduleInit rfl (by decide) rfl (fun _ _ _ => trivial) ?_
  refine continues_stage services.setup rfl (by decide) rfl (fun _ _ _ => trivial) ?_
  exact continues_enter

/-! ### Giving up -/

/-- The call that follows the sequence: start-up is given up with the code of a failure. -/
def Services.farewell (result : Except Failure Unit) (state : State) :
    List (Exchange State File) :=
  match result with
  | .ok () => []
  | .error failure => [⟨.applicationExit failure.code, state, .nothing⟩]

/-- Start-up makes its calls in their order, each at most once, up to the first that fails or to the
entry of the flight software, as `Boots` says in full. Its result is that failure, even if its code
is 0, and the flight software is entered exactly if there is none, with the type and the subtype
that the cause of the reset is classified as. A failed start-up is given up once, with the code of
the failure, and a successful one is not. None of this depends on what the system answers. Watching
the calls does not change what they do, and the calls are those which the trace of a rehearsal
shows. -/
theorem startup_sequenced (services : Services State File) (target : Target) (state : State) :
    let outcome := (services.start target).run state
    let application := services.startApplication target state
    ∃ made,
      (services.observed.start target).run ⟨state, []⟩ = (outcome.1, ⟨outcome.2, made⟩) ∧
      Boots services target made outcome.1 ∧
      (made.map Exchange.step).Nodup ∧
      (∀ exchange ∈ made, exchange.step ≠ .exit) ∧
      services.observed.startApplication target ⟨state, []⟩ =
        (outcome.1, ⟨application.2, made ++ Services.farewell outcome.1 outcome.2⟩) ∧
      (services.traced.startApplication target ⟨state, []⟩).2.calls.reverse =
        (made ++ Services.farewell outcome.1 outcome.2).map Exchange.call := by
  intro outcome application
  have same := (mirrored_observed services).start target ⟨state, []⟩
  have calls := (mirrored_traced services).startApplication target ⟨state, []⟩
  have boots := boots_start services target state
  have ended : application = _ := startApplication_eq services target state
  rcases ran : (services.observed.start target).run ⟨state, []⟩ with ⟨result, after, made⟩
  rw [ran] at same boots
  have outcomeEq : outcome = (result, after) := same.symm
  have recorded : services.observed.startApplication target ⟨state, []⟩ =
      (outcome.1, ⟨application.2, made ++ Services.farewell outcome.1 outcome.2⟩) := by
    rw [startApplication_eq, ran, ended, show (services.start target).run state = _ from outcomeEq,
      outcomeEq]
    rcases result with failure | _
    · rfl
    · simp [Services.farewell]
  rw [recorded] at calls
  refine ⟨made, by rw [outcomeEq], ?_, boots.nodup, boots.not_exited, recorded, ?_⟩
  · rw [outcomeEq]
    exact boots
  · rw [show services.traced.startApplication target ⟨state, []⟩ = _ from calls.symm]
    simp [Observed.traced]

end BoardSupport.Startup
