/-
This file follows the firmware of the board from reset to the entry of the flight
software, or to where it gives up. On this board only one thing decides which of the
two it comes to: whether the start-up script fits on the disk. A script that does not
fit is cut off, the write falls short, and the board is restarted before anything is
registered or the watchdog is touched. Each call of the sequence is one lemma, and
`EndsWith` carries the rest of the sequence from call to call.
-/

import BoardSupport.Proofs.Board.Filling
import BoardSupport.Proofs.Board.ResetDecoding
import BoardSupport.Proofs.Device.Numbering
import BoardSupport.Proofs.Startup.Sequencing

namespace BoardSupport

/-! ### Where a program comes to -/

namespace Startup

variable {State File : Type}

/-- From a state, and whatever was called before, the program comes to this result and this state,
and this is the last call that it makes. -/
def EndsWith (program : ExceptT Failure (StateM (Observed State File)) Unit) (state : State)
    (result : Except Failure Unit) (after : State) (last : Exchange State File) : Prop :=
  ∀ made, ∃ more, program.run ⟨state, made⟩ = (result, ⟨after, made ++ more ++ [last]⟩)

variable {rest : ExceptT Failure (StateM (Observed State File)) Unit} {state after : State}
  {result : Except Failure Unit} {last : Exchange State File}

theorem EndsWith.stage {call : Call File} {stage : Stage} {service : Service State Unit}
    {next : State} (served : service.run state = (.ok (), next))
    (ends : EndsWith rest next result after last) :
    EndsWith (do
      Services.atStage stage (Observed.request call .status service)
      rest) state result after last := by
  intro made
  let exchange : Exchange State File := ⟨call, state, .status (.ok ())⟩
  obtain ⟨more, ran⟩ := ends (made ++ [exchange])
  refine ⟨exchange :: more, ?_⟩
  rw [run_bind, run_atStage, run_request, served]
  show rest.run ⟨next, made ++ [exchange]⟩ = _
  rw [ran, List.append_assoc made, List.singleton_append]

/-- A run that writes the script, with the answers it gets. -/
structure Installs (services : Services State File) (script : List UInt8) (state : State)
    (count : Nat) (left : File) (written : State) : Prop where
  opened : ∃ file opened, (services.create Settings.scriptPath).run state = (.ok file, opened) ∧
    services.write file script opened = ((.ok count, left), written)
  closed : (services.close left).run written = (.ok (), written)

section Installs

variable {services : Services State File} {script : List UInt8} {count : Nat} {left : File}
  {written : State}

theorem Installs.run (installs : Installs services script state count left written)
    (made : List (Exchange State File)) :
    ∃ more, (services.observed.installScript script).run ⟨state, made⟩ =
      (scriptResult script.length (.ok count) (.ok ()),
        ⟨written, made ++ more ++ [⟨.close left, written, .status (.ok ())⟩]⟩) := by
  obtain ⟨⟨file, opened, created, wrote⟩, closed⟩ := installs
  refine ⟨[⟨.create Settings.scriptPath, state, .file (.ok file)⟩,
    ⟨.write file script, opened, .written (.ok count) left⟩], ?_⟩
  rw [run_installScript, Services.observed]
  simp only [run_request, created, Observed.perform, wrote, closed]
  simp only [List.append_assoc, List.cons_append, List.nil_append]

theorem EndsWith.installed (installs : Installs services script state script.length left written)
    (ends : EndsWith rest written result after last) :
    EndsWith (do
      services.observed.installScript script
      rest) state result after last := by
  intro made
  obtain ⟨more, ran⟩ := installs.run made
  obtain ⟨others, went⟩ :=
    ends (made ++ more ++ [⟨.close left, written, .status (.ok ())⟩])
  refine ⟨more ++ ⟨.close left, written, .status (.ok ())⟩ :: others, ?_⟩
  rw [run_bind, ran, scriptResult, Services.writeResult, if_pos rfl]
  show rest.run _ = _
  rw [went]
  simp only [List.append_assoc, List.cons_append, List.nil_append]

/-- A write that falls short ends the sequence with the closing of the file. -/
theorem endsWith_short (installs : Installs services script state count left written)
    (short : count ≠ script.length) :
    EndsWith (do
      services.observed.installScript script
      rest) state (.error ⟨.writeScript, -1⟩) written
      ⟨.close left, written, .status (.ok ())⟩ := by
  intro made
  obtain ⟨more, ran⟩ := installs.run made
  refine ⟨more, ?_⟩
  rw [run_bind, ran, scriptResult, Services.writeResult, if_neg short]
  rfl

end Installs

theorem endsWith_enter (services : Services State File)
    (served : (services.reservedInit (services.resetCause state).classify.1).run state =
      (.ok (), after)) :
    EndsWith services.observed.enter state (.ok ())
      (services.systemMain (services.resetCause state).classify.1
        (services.resetCause state).classify.2 Settings.startupMode Settings.scriptPath after).2
      ⟨.systemMain (services.resetCause state).classify.1
        (services.resetCause state).classify.2 Settings.startupMode Settings.scriptPath, after,
        .nothing⟩ := by
  intro made
  refine ⟨[⟨.reservedInit (services.resetCause state).classify.1, state, .status (.ok ())⟩], ?_⟩
  rw [run_enter, Services.observed]
  simp only [run_request, served]
  rfl

/-- A start-up that ends so has this result, watched or not, and enters the flight software only if
it succeeds. -/
theorem EndsWith.start {services : Services State File} {target : Target}
    (ends : EndsWith (services.observed.start target) state result after last) :
    ∃ made,
      (services.observed.start target).run ⟨state, []⟩ = (result, ⟨after, made ++ [last]⟩) ∧
      (result ≠ .ok () → ∀ exchange ∈ made ++ [last], exchange.step ≠ .enter) ∧
      (services.start target).run state = (result, after) := by
  obtain ⟨made, ran⟩ := ends []
  rw [List.nil_append] at ran
  have boots := boots_start services target state
  have same := (mirrored_observed services).start target ⟨state, []⟩
  rw [ran] at boots same
  refine ⟨made, ran, ?_, same.symm⟩
  intro failed exchange member entered
  exact failed (boots.entered.mp ⟨exchange, member, entered⟩)

end Startup

namespace Board

/-! ### The calls of the board's start-up -/

namespace Firmware

open Device (Registry)

/-- The registry of the board with the load monitor in it. -/
def monitorOnly : List (String × DeviceDriver) := [(Settings.monitorName, .loadMonitor)]

theorem run_moduleInit (firmware : Firmware)
    (unused : firmware.registry = .empty Settings.deviceCapacity) :
    ∃ registry, services.moduleInit.run firmware = (.ok (), { firmware with registry }) ∧
      registry.Holds monitorOnly := by
  obtain ⟨accepted, -, holds⟩ := (Registry.holds_empty Settings.deviceCapacity).register_of_accepted
    Settings.monitorName DeviceDriver.loadMonitor (by decide) (by decide)
  refine ⟨_, ?_, holds⟩
  rw [← unused] at accepted ⊢
  rcases registered : firmware.registry.register Settings.monitorName .loadMonitor with
    ⟨result, registry⟩
  rw [registered] at accepted
  cases accepted
  unfold services
  rw [run_get_bind, registered]
  rfl

/-- The watchdog gets its timeout and stays off, so the hardware is not touched. -/
theorem run_setup (firmware : Firmware) :
    services.setup.run firmware =
      (.ok (), { firmware with watchdog := ⟨watchdogTimeout, false⟩ }) := rfl

/-- Firmware that has made its disk and mounted it. -/
def opened (firmware : Firmware) : Firmware :=
  (firmware.afterFormat Settings.diskDevice Settings.diskVolume Settings.sectorSize
    Settings.sectorCount).afterMount Settings.mountPoint

theorem installs_script (firmware : Firmware) (whole : firmware.HasDisk) (script : List UInt8) :
    ∃ left disk,
      Startup.Installs services script firmware.opened (min script.length Disk.size) left
        { firmware.opened with disk } ∧
      disk.content = Disk.holding script := by
  have filled : Filled [] 0 firmware.opened :=
    filled_opened firmware whole Settings.diskDevice Settings.diskVolume Settings.sectorSize
      Settings.sectorCount Settings.mountPoint
  obtain ⟨left, disk, written, installed⟩ := filled.write script
  exact ⟨left, disk, ⟨⟨0, firmware.opened, run_create _ _ rfl, written⟩, rfl⟩, installed.content⟩

/-- Up to its script the sequence goes the same way for every script. -/
theorem endsWith_start (firmware : Firmware) (whole : firmware.HasDisk) (target : Target)
    {result : Except Startup.Failure Unit} {after : Firmware}
    {last : Startup.Exchange Firmware Nat}
    (ends : Startup.EndsWith (do
      services.observed.installScript target.script
      Startup.Services.atStage .moduleInit services.observed.moduleInit
      Startup.Services.atStage .setup services.observed.setup
      services.observed.enter) firmware.opened result after last) :
    Startup.EndsWith (services.observed.start target) firmware result after last := by
  have room : Settings.sectorSize * Settings.sectorCount ≤ firmware.disk.content.length := by
    rw [whole]
    exact Nat.le_refl _
  rw [Startup.start_eq]
  have first : services.apiInit.run firmware = (.ok (), firmware) := rfl
  have second : services.reservedMap.run firmware = (.ok (), firmware) := rfl
  have third := run_makeDisk firmware Settings.diskDevice Settings.diskVolume Settings.sectorSize
    Settings.sectorCount room
  have fourth := run_mount (firmware.afterFormat Settings.diskDevice Settings.diskVolume
    Settings.sectorSize Settings.sectorCount) Settings.diskDevice Settings.mountPoint rfl
  exact .stage first (.stage second (.stage third (.stage fourth ends)))

/-- A script that fits leads to the entry of the flight software. -/
theorem enters_of_fits (firmware : Firmware) (whole : firmware.HasDisk)
    (unused : firmware.registry = .empty Settings.deviceCapacity) (target : Target)
    (fits : target.script.length ≤ Disk.size) :
    ∃ prepared : Firmware, ∃ registry disk,
      prepared = { firmware.opened with registry, disk, watchdog := ⟨watchdogTimeout, false⟩ } ∧
      registry.Holds monitorOnly ∧ disk.content = Disk.holding target.script ∧
      Startup.EndsWith (services.observed.start target) firmware (.ok ())
        (prepared.systemMain firmware.support.cause.classify.1 firmware.support.cause.classify.2
          Settings.startupMode Settings.scriptPath)
        ⟨.systemMain firmware.support.cause.classify.1 firmware.support.cause.classify.2
          Settings.startupMode Settings.scriptPath, prepared, .nothing⟩ := by
  obtain ⟨left, disk, installs, content⟩ := firmware.installs_script whole target.script
  rw [Nat.min_eq_left fits] at installs
  obtain ⟨registry, registered, holds⟩ :=
    run_moduleInit { firmware.opened with disk } unused
  refine ⟨_, registry, disk, rfl, holds, content, firmware.endsWith_start whole target ?_⟩
  exact .installed installs (.stage registered (.stage (run_setup _)
    (Startup.endsWith_enter services rfl)))

/-- A script that does not fit ends the sequence right after the file is closed. -/
theorem stops_of_long (firmware : Firmware) (whole : firmware.HasDisk) (target : Target)
    (long : Disk.size < target.script.length) :
    ∃ stopped : Firmware, ∃ disk left,
      stopped = { firmware.opened with disk } ∧ disk.content = Disk.holding target.script ∧
      Startup.EndsWith (services.observed.start target) firmware (.error ⟨.writeScript, -1⟩)
        stopped ⟨.close left, stopped, .status (.ok ())⟩ := by
  obtain ⟨left, disk, installs, content⟩ := firmware.installs_script whole target.script
  rw [Nat.min_eq_right (Nat.le_of_lt long)] at installs
  exact ⟨_, disk, left, rfl, content,
    firmware.endsWith_start whole target (Startup.endsWith_short installs (Nat.ne_of_lt long))⟩

/-! ### Start-up on the board -/

theorem hasDisk_build (session : Monitor.Session vocabulary) (target : Target) :
    (build session target).HasDisk := Disk.length_blank

/-- On the board nothing but the length of the start-up script decides how start-up goes. With a
script that fits on the disk of 3328 bytes the flight software is entered: the disk holds the script
and then zeros, the load monitor is the only device, the watchdog has its timeout and is off, and
the reset is classified by the cause that the flags in the registers decode to, bit by bit. With a
longer one start-up fails at the write: the disk is full of the script's beginning, nothing is
registered, neither the watchdog nor its hardware is touched, and the board is restarted as a
processor reset, which its hardware carries out as one that software asked for. More generally, a
disk that is made and mounted gives a file that takes any number of writes. -/
theorem startup_fills_disk (session : Monitor.Session vocabulary) (target : Target) :
    let firmware := build session target
    let flags := session.state.registers.resetFlags
    let cause := ResetFlags.cause flags
    let reset := cause.classify
    Disk.size = 3328 ∧
    ResetFlags.Decodes (ResetFlags.IsSet flags) cause ∧ cause.Classified reset.1 reset.2 ∧
    (target.script.length ≤ Disk.size →
      ∃ made prepared,
        (services.observed.start target).run ⟨firmware, []⟩ =
          (.ok (), ⟨prepared.systemMain reset.1 reset.2 Settings.startupMode Settings.scriptPath,
            made ++ [⟨.systemMain reset.1 reset.2 Settings.startupMode Settings.scriptPath,
              prepared, .nothing⟩]⟩) ∧
        services.startApplication target firmware =
          (.ok (),
            prepared.systemMain reset.1 reset.2 Settings.startupMode Settings.scriptPath) ∧
        prepared.disk.content =
          target.script ++ List.replicate (Disk.size - target.script.length) 0 ∧
        prepared.registry.size = 1 ∧
        prepared.registry.find? Settings.monitorName = some 0 ∧
        prepared.registry.driver? 0 = some .loadMonitor ∧
        prepared.watchdog = ⟨10000, false⟩ ∧
        prepared.session = firmware.session) ∧
    (Disk.size < target.script.length →
      ∃ made stopped,
        (services.observed.start target).run ⟨firmware, []⟩ =
          (.error ⟨.writeScript, -1⟩, ⟨stopped, made⟩) ∧
        (∀ exchange ∈ made, exchange.step ≠ .enter) ∧
        stopped.disk.content = target.script.take Disk.size ∧
        stopped.registry = .empty Settings.deviceCapacity ∧
        stopped.watchdog = .fresh ∧
        stopped.session = firmware.session ∧
        services.startApplication target firmware =
          (.error ⟨.writeScript, -1⟩, stopped.applicationExit (-1)) ∧
        (firmware.start target).ending = some (.reset (.ofType .processor)) ∧
        HardwareReset.ofType .processor = .software) ∧
    ∀ (opening : Firmware) (device volume mountPoint path : String) (sectorSize sectorCount : Nat),
      opening.HasDisk → sectorSize * sectorCount ≤ Disk.size →
      ∃ made mounted file,
        (services.makeDisk device volume sectorSize sectorCount).run opening = (.ok (), made) ∧
        (services.mount device mountPoint).run made = (.ok (), mounted) ∧
        (services.create path).run mounted = (.ok file, mounted) ∧
        TakesWrites file mounted := by
  intro firmware flags cause reset
  have whole := hasDisk_build session target
  refine ⟨rfl, ResetFlags.decodes_cause flags, classified_classify cause, fun fits => ?_,
    fun long => ?_, ?_⟩
  · obtain ⟨prepared, registry, disk, same, holds, content, ends⟩ :=
      firmware.enters_of_fits whole rfl target fits
    obtain ⟨made, ran, -, outcome⟩ := ends.start
    have application : services.startApplication target firmware =
        (.ok (),
          prepared.systemMain reset.1 reset.2 Settings.startupMode Settings.scriptPath) := by
      rw [Startup.startApplication_eq, outcome]
      rfl
    refine ⟨made, prepared, ran, application, ?_⟩
    subst same
    refine ⟨content.trans (Disk.holding_of_fits fits), holds.count, ?_, ?_, rfl, rfl⟩
    · exact holds.find?_eq Settings.monitorName
    · exact holds.driver?_eq 0
  · obtain ⟨stopped, disk, left, same, content, ends⟩ :=
      firmware.stops_of_long whole target long
    obtain ⟨made, ran, unentered, outcome⟩ := ends.start
    have application : services.startApplication target firmware =
        (.error ⟨.writeScript, -1⟩, stopped.applicationExit (-1)) := by
      rw [Startup.startApplication_eq, outcome]
      rfl
    have ending : (firmware.start target).ending = some (.reset (.ofType .processor)) := by
      rw [Firmware.start, application]
      rfl
    subst same
    exact ⟨_, _, ran, unentered nofun, content.trans (Disk.holding_of_long (Nat.le_of_lt long)),
      rfl, rfl, rfl, application, ending, rfl⟩
  · intro opening device volume mountPoint path sectorSize sectorCount whole fits
    exact opening.exists_takesWrites whole device volume sectorSize sectorCount fits mountPoint path

end Firmware

end Board

end BoardSupport
