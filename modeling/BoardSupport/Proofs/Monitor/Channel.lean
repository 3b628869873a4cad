/-
This file follows a load from the journal of its monitor to a reader who knows it only
by names. The journal tells which load was stored last, and at every moment of a life,
in the middle of a pause or of a sample too, that is the load which the monitor has
published: a step either enters nothing of the kind, or stores a load and publishes it
at once, or starts the monitor anew. A registry in which the monitor has a name leads a
reader to the two channels at which the load can be read, and both show the same code.
-/

import BoardSupport.Proofs.Device.Numbering
import BoardSupport.Proofs.Load.Codec
import BoardSupport.Proofs.Monitor.Lifecycle
import BoardSupport.Proofs.Monitor.Reading

namespace BoardSupport.Monitor

variable {v : Vocabulary}

/-! ### The load that was stored last -/

/-- The entries of the journal that may change what readers see. -/
def Event.ofReading : Event v → Bool
  | .stored _ _ => true
  | .cleared => true
  | .spawned _ (.ok _) => true
  | _ => false

/-- The sample that was stored last, newest entry first: none if its window was empty, and none if
nothing was stored since the last start that switched the monitor on. -/
def lastStored : List (Event v) → Option LoadSample
  | [] => none
  | .stored _ sample :: _ => sample
  | .spawned _ (.ok _) :: _ => none
  | _ :: earlier => lastStored earlier

theorem lastStored_append (entries journal : List (Event v))
    (silent : ∀ event ∈ entries, event.ofReading = false) :
    lastStored (entries ++ journal) = lastStored journal := by
  induction entries with
  | nil => rfl
  | cons event rest inductionHypothesis =>
    have first := silent event List.mem_cons_self
    have others := inductionHypothesis fun other member =>
      silent other (List.mem_cons_of_mem _ member)
    rw [List.cons_append, ← others]
    cases event with
    | stored => cases first
    | cleared => cases first
    | spawned spec result =>
      cases result with
      | ok handle => cases first
      | error fault => rfl
    | _ => rfl

/-- The load of a window is a percentage. -/
theorem loadPercent_of_window {sampler : Sampler} {now : RunTime} {sample : LoadSample}
    (measured : sampler.window now = some sample) : sample.loadPercent ≤ Settings.fullLoad := by
  simp only [Sampler.window] at measured
  split at measured
  · cases measured
  · cases measured
    exact Sampler.loadPercent_le _

namespace Session

/-- Readers see the load that was stored last. -/
structure UpToDate (session : Session v) : Prop where
  published : session.monitor.averageLoad = Sampler.publishedCode (lastStored session.journal)
  bounded : ∀ sample, lastStored session.journal = some sample →
    sample.loadPercent ≤ Settings.fullLoad

/-- The monitor was never refused a task. -/
def Granted (session : Session v) : Prop :=
  ∀ spec fault, .spawned spec (.error fault) ∉ session.journal

theorem upToDate_fresh (state : v.State) : (Session.fresh state).UpToDate := ⟨rfl, nofun⟩

theorem UpToDate.grown {before after : Session v} (upToDate : before.UpToDate)
    (grown : Grown (fun event => event.ofReading = false) before after) : after.UpToDate := by
  obtain ⟨entries, journal, silent, sampler⟩ := grown
  have same : lastStored after.journal = lastStored before.journal := by
    rw [journal, lastStored_append entries before.journal silent]
  have untouched : after.monitor.sampler = before.monitor.sampler := by
    refine sampler fun event member => ?_
    have quiet := silent event member
    cases event with
    | stored => cases quiet
    | cleared => cases quiet
    | _ => rfl
  refine ⟨?_, by rw [same]; exact upToDate.bounded⟩
  rw [same, ← upToDate.published, averageLoad, averageLoad, untouched]

/-- A start either changes nothing or leaves no load. -/
theorem UpToDate.start {session : Session v} (upToDate : session.UpToDate) (host : Host v)
    (granted : (session.start host).2.Granted) : (session.start host).2.UpToDate := by
  by_cases running : session.monitor.running = true
  · rw [start_of_running host session running]
    exact upToDate
  · rcases answer : host.spawn samplingTask session.state with ⟨result, state⟩
    cases result with
    | ok handle =>
      simp only [Session.start, running, answer, Bool.false_eq_true, if_false]
      exact ⟨rfl, by simp [lastStored]⟩
    | error fault =>
      -- A refused start clears the load without switching on, so it must not have happened.
      refine absurd ?_ (granted samplingTask fault)
      simp [Session.start, running, answer]

theorem averageLoad_stop (host : Host v) (session : Session v) :
    (session.stop host).monitor.averageLoad = session.monitor.averageLoad := by
  unfold Session.stop
  split
  · split <;> rfl
  · rfl

theorem UpToDate.stop {session : Session v} (upToDate : session.UpToDate) (host : Host v) :
    (session.stop host).UpToDate := by
  unfold Session.stop
  split
  · split
    · exact ⟨upToDate.published, upToDate.bounded⟩
    · exact ⟨upToDate.published, upToDate.bounded⟩
  · exact upToDate

end Session

namespace Machine

/-- A sample is stored and published in one go. -/
theorem upToDate_store (machine : Machine v) (byTask : Bool) (reading : RunTime) :
    (machine.store byTask reading).2.session.UpToDate :=
  ⟨rfl, fun _ stored => loadPercent_of_window stored⟩

theorem upToDate_of_transition {host : Host v} {machine next : Machine v}
    (taken : Transition host machine next) (upToDate : machine.session.UpToDate)
    (granted : next.session.Granted) : next.session.UpToDate := by
  cases taken with
  | switch on outcome asked =>
    cases on with
    | true => exact upToDate.start host granted
    | false => exact upToDate.stop host
  | enter asked wanted => exact upToDate.grown (grown_beginDelay host machine rfl fun _ => rfl)
  | measure asked =>
    exact upToDate.grown (grown_beginSample host false machine rfl rfl fun _ => rfl)
  | wake rest outcome given top wanted =>
    exact upToDate.grown
      (grown_beginSample host true { machine with stack := rest } rfl rfl fun _ => rfl)
  | publish reading rest outcome given top wanted =>
    -- The pause that follows the sample enters nothing about loads.
    let stored := ({ machine with stack := rest }.store true reading).2
    exact (upToDate_store { machine with stack := rest } true reading).grown
      (grown_beginDelay host stored rfl fun _ => rfl)
  | conclude reading rest outcome given top =>
    exact upToDate_store { machine with stack := rest } false reading
  | perform operation asked =>
    exact upToDate.grown (grown_follow machine _ fun _ => rfl)
  | resume frame rest outcome given top =>
    exact upToDate.grown (grown_follow { machine with stack := rest } _ fun _ => rfl)
  | _ => exact upToDate

end Machine

theorem Session.Granted.earlier {condition : Event v → Prop} {before after : Session v}
    (granted : after.Granted) (grown : Session.Grown condition before after) : before.Granted := by
  obtain ⟨entries, journal, -⟩ := grown
  intro spec fault refused
  exact granted spec fault (by rw [journal]; exact List.mem_append_right entries refused)

/-- At every moment of a life in which the host grants every task, readers see the load that was
stored last. -/
theorem Reachable.upToDate {host : Host v} {machine : Machine v}
    (reachable : Reachable host machine) (granted : machine.session.Granted) :
    machine.session.UpToDate := by
  obtain ⟨state, control, path⟩ := reachable
  induction path with
  | refl => exact Session.upToDate_fresh state
  | @tail before after _ taken inductionHypothesis =>
    cases taken with
    | step =>
      have step := Machine.transition_step host before
      have earlier := granted.earlier (Machine.grown_of_transition step)
      exact Machine.upToDate_of_transition step (inductionHypothesis earlier) granted
    | next =>
      have same := inductionHypothesis granted
      exact ⟨same.published, same.bounded⟩

/-- What readers see stands for the load that was stored last. -/
theorem Session.UpToDate.decode_eq {session : Session v} (upToDate : session.UpToDate) :
    LoadCode.decode session.monitor.averageLoad =
      ((lastStored session.journal).map LoadSample.loadPercent).getD 0 := by
  rw [upToDate.published]
  rcases stored : lastStored session.journal with _ | sample
  · decide
  · exact LoadCode.decode_ofPercent (UInt32.le_iff_toNat_le.mp (upToDate.bounded sample stored))

/-! ### A monitor among other drivers -/

open Device (Command Registry Reply)

/-- A channel is found if its device is known and answers for both names, with numbers and without
a change of the world. -/
theorem resolve_of_answered {Driver World : Type} {registry : Registry Driver}
    {invoke : Registry.Invoke Driver World} {device subsystem subchannel : String}
    {number first second : UInt16} {driver : Driver} {world : World} {one two : Reply}
    (found : registry.find? device = some number) (held : registry.driver? number = some driver)
    (answersOne : invoke driver ⟨Command.lookupSubsystem.code, 0, 0, .text subsystem⟩ world =
      (one, world))
    (answersTwo : invoke driver ⟨Command.lookupSubchannel.code, 0, 0, .text subchannel⟩ world =
      (two, world))
    (numberOne : Registry.numberOfStatus one.status = .ok first)
    (numberTwo : Registry.numberOfStatus two.status = .ok second) :
    (registry.resolve invoke device subsystem subchannel).run world =
      (.ok ⟨number, first, second⟩, world) := by
  have asked (lookup : Command) (name : String) :
      (Registry.askNumber invoke driver lookup name).run world =
        (Registry.numberOfStatus (invoke driver ⟨lookup.code, 0, 0, .text name⟩ world).1.status,
          (invoke driver ⟨lookup.code, 0, 0, .text name⟩ world).2) := rfl
  have runOne := asked .lookupSubsystem subsystem
  have runTwo := asked .lookupSubchannel subchannel
  rw [answersOne, numberOne] at runOne
  rw [answersTwo, numberTwo] at runTwo
  simp only [Registry.resolve, found, held, ExceptT.run_bind, Registry.run_bind_world, runOne,
    runTwo]
  rfl

theorem command_lookupSubsystem (host : Host v) (session : Session v) (name : String) :
    session.command host ⟨Command.lookupSubsystem.code, 0, 0, .text name⟩ =
      (⟨statusWord (subsystemNames.number name), .text name⟩, session) := by
  have judged : session.monitor.judge ⟨Command.lookupSubsystem.code, 0, 0, .text name⟩ =
      .answer (subsystemNames.number name) (.text name) := by
    rw [judge, Command.ofCode?_code]
    rfl
  rw [Session.command, judged]

theorem command_lookupSubchannel (host : Host v) (session : Session v) (name : String) :
    session.command host ⟨Command.lookupSubchannel.code, 0, 0, .text name⟩ =
      (⟨statusWord (subchannelNames.number name), .text name⟩, session) := by
  have judged : session.monitor.judge ⟨Command.lookupSubchannel.code, 0, 0, .text name⟩ =
      .answer (subchannelNames.number name) (.text name) := by
    rw [judge, Command.ofCode?_code]
    rfl
  rw [Session.command, judged]

section Channel

variable {Other Rest : Type}

/-- Commands to the load monitor, which is the driver none, and to some other drivers, which may do
whatever they like. -/
def invokeAmong (host : Host v) (others : Registry.Invoke Other (Session v × Rest)) :
    Registry.Invoke (Option Other) (Session v × Rest)
  | none, invocation => fun (session, rest) =>
    let (reply, session) := session.command host invocation
    (reply, (session, rest))
  | some other, invocation => others other invocation

theorem invokeAmong_none (host : Host v) (others : Registry.Invoke Other (Session v × Rest))
    (invocation : Device.Invocation) (world : Session v × Rest) :
    invokeAmong host others none invocation world =
      ((world.1.command host invocation).1, ((world.1.command host invocation).2, world.2)) := rfl

/-- Under its name a reader finds the monitor's two channels, and one sample from either is the same
code. Neither finding nor reading changes anything. -/
structure Shows (registry : Registry (Option Other))
    (invoke : Registry.Invoke (Option Other) (Session v × Rest)) (name : String) (number : UInt16)
    (world : Session v × Rest) (code : UInt32) : Prop where
  aggregate : (registry.resolve invoke name "aggregate" "cpu-load").run world =
    (.ok ⟨number, aggregateSubsystem, loadSubchannel⟩, world)
  processor : (registry.resolve invoke name "per-cpu" "cpu-load").run world =
    (.ok ⟨number, processorSubsystem, loadSubchannel⟩, world)
  samples : ∀ subsystem, HasLoad subsystem → ∀ slot,
    registry.analogRead invoke ⟨number, subsystem, loadSubchannel⟩ [slot] world =
      ((.ok (), [code]), world)

/-- Both tables of names are those of the monitor, whatever the other drivers are. -/
theorem resolve_of_named (host : Host v) (others : Registry.Invoke Other (Session v × Rest))
    {registry : Registry (Option Other)} {name subsystem subchannel : String}
    {number first second : UInt16} (found : registry.find? name = some number)
    (held : registry.driver? number = some none) (world : Session v × Rest)
    (numberOne : Registry.numberOfStatus (statusWord (subsystemNames.number subsystem)) = .ok first)
    (numberTwo :
      Registry.numberOfStatus (statusWord (subchannelNames.number subchannel)) = .ok second) :
    (registry.resolve (invokeAmong host others) name subsystem subchannel).run world =
      (.ok ⟨number, first, second⟩, world) := by
  have answersOne : invokeAmong host others none
      ⟨Command.lookupSubsystem.code, 0, 0, .text subsystem⟩ world =
      (⟨statusWord (subsystemNames.number subsystem), .text subsystem⟩, world) := by
    rw [invokeAmong_none, command_lookupSubsystem]
  have answersTwo : invokeAmong host others none
      ⟨Command.lookupSubchannel.code, 0, 0, .text subchannel⟩ world =
      (⟨statusWord (subchannelNames.number subchannel), .text subchannel⟩, world) := by
    rw [invokeAmong_none, command_lookupSubchannel]
  exact resolve_of_answered found held answersOne answersTwo numberOne numberTwo

theorem shows_averageLoad (host : Host v) (others : Registry.Invoke Other (Session v × Rest))
    {registry : Registry (Option Other)} {name : String} {number : UInt16}
    (found : registry.find? name = some number) (held : registry.driver? number = some none)
    (session : Session v) (rest : Rest) :
    Shows registry (invokeAmong host others) name number (session, rest)
      session.monitor.averageLoad where
  aggregate := resolve_of_named host others found held _ (by decide) (by decide)
  processor := resolve_of_named host others found held _ (by decide) (by decide)
  samples := by
    intro subsystem hasLoad slot
    have heard : registry.command (invokeAmong host others) ⟨number, subsystem, loadSubchannel⟩
        .analogRead (.channels (.ofSamples [slot])) (session, rest) =
        (loadReply session.monitor.averageLoad, (session, rest)) := by
      rw [Registry.command, held]
      show invokeAmong host others none (loadRequest subsystem slot) (session, rest) = _
      rw [invokeAmong_none, command_loadRequest host session subsystem slot hasLoad]
    rw [Registry.analogRead, Registry.run_bind_world, heard]
    rfl

end Channel

/-- A reader always sees the load that was stored last. Give the monitor a name in a registry of at
most 65536 slots, among whatever other drivers; then at every moment of a life in which the host
grants every task, both names of the load lead a reader to a channel, and both channels show one
code, which stands for the load of the sample stored last, or for no load at all if there is none.
Switching the monitor off leaves that code as it is. -/
theorem reader_sees_last_load {Other Rest : Type} (host : Host v)
    (others : Registry.Invoke Other (Session v × Rest)) (capacity : Nat) (small : capacity ≤ 65536)
    (world : Session v × Rest) (uses more : List (Device.Use (Option Other))) (name : String)
    (number : UInt16) (machine : Machine v) (reachable : Reachable host machine)
    (granted : machine.session.Granted) (rest : Rest) :
    let invoke := invokeAmong host others
    let before := (Device.Deployment.fresh capacity world).carryOutAll invoke uses
    let registry := (before.carryOutAll invoke (.register name none :: more)).registry
    (before.registry.register name none).1 = .ok number →
    ∃ code,
      Shows registry invoke name number (machine.session, rest) code ∧
      LoadCode.decode code =
        ((lastStored machine.session.journal).map LoadSample.loadPercent).getD 0 ∧
      (machine.switching = some false →
        Shows registry invoke name number ((machine.step host).session, rest) code) := by
  intro invoke before registry registered
  have kept : before.Kept capacity :=
    ((Device.Deployment.kept_fresh capacity world).carryOutAll invoke uses).1
  obtain ⟨found, held⟩ := kept.registered small invoke registered more
  refine ⟨machine.session.monitor.averageLoad, ?_, ?_, fun stopping => ?_⟩
  · exact shows_averageLoad host others found held machine.session rest
  · exact (reachable.upToDate granted).decode_eq
  · have same : (machine.step host).session.monitor.averageLoad =
        machine.session.monitor.averageLoad := by
      rw [Machine.session_of_switching host machine false stopping]
      exact Session.averageLoad_stop host machine.session
    rw [← same]
    exact shows_averageLoad host others found held (machine.step host).session rest

/-- In the rehearsal with a restart, a reader between two other drivers finds 75 percent in the middle
of the second pause, and finds them still when that pause has stopped the monitor. -/
theorem reader_sees_last_load_in_pause :
    let machine := Rehearsal.restarting 10
    let world := (machine.session, ())
    let invoke : Registry.Invoke (Option Nat) (Session Rehearsal.vocabulary × Unit) :=
      invokeAmong Rehearsal.host fun _ invocation => pure ⟨0, invocation.argument⟩
    let registry := ((Device.Deployment.fresh 3 (Rehearsal.fresh, ())).carryOutAll invoke
      [.register "adc" (some 4), .command ⟨0, 0, 0⟩ .noop .none, .register "load" none,
        .register "dac" (some 5)]).registry
    machine.switching = some false ∧ machine.stack.length = 2 ∧
      (registry.resolve invoke "load" "per-cpu" "cpu-load").run world = (.ok ⟨1, 1, 0⟩, world) ∧
      ∃ code, LoadCode.decode code = 75 ∧
        registry.analogRead invoke ⟨1, 1, 0⟩ [7] world = ((.ok (), [code]), world) ∧
        registry.analogRead invoke ⟨1, 0, 0⟩ [7] ((machine.step Rehearsal.host).session, ()) =
          ((.ok (), [code]), ((machine.step Rehearsal.host).session, ())) := by
  intro machine world invoke registry
  have granted : machine.session.Granted := by
    have spared : machine.session.journal.all fun event =>
        match event with
        | .spawned _ (.error _) => false
        | _ => true := by decide
    intro spec fault refused
    cases List.all_eq_true.mp spared _ refused
  obtain ⟨code, shows, decodes, stays⟩ := reader_sees_last_load Rehearsal.host
    (fun (_ : Nat) invocation => pure ⟨0, invocation.argument⟩) 3 (by decide) (Rehearsal.fresh, ())
    [.register "adc" (some 4), .command ⟨0, 0, 0⟩ .noop .none] [.register "dac" (some 5)] "load" 1
    machine (Rehearsal.reachable_restarting 10) granted () (by decide)
  refine ⟨rfl, rfl, shows.processor, code, ?_, ?_, ?_⟩
  · rw [decodes]
    decide
  · exact shows.samples processorSubsystem (.inr rfl) 7
  · exact (stays rfl).samples aggregateSubsystem (.inl rfl) 7

end BoardSupport.Monitor
