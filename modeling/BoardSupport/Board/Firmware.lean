/-
This file holds the firmware of the board: its services during start-up, the
entry of the flight software, and the whole way there from reset. The load
monitor is registered as a device, started by a command, and run from the
board's main loop, which never returns; a simulated board stops all the same,
when it may not sleep any more or when it is reset.
-/

import BoardSupport.Board.Disk
import BoardSupport.Board.Host
import BoardSupport.Board.Log
import BoardSupport.Device.Registry
import BoardSupport.Startup.Sequence

namespace BoardSupport.Board

open Monitor (Machine Session)

inductive DeviceDriver
  | loadMonitor
  deriving DecidableEq, Repr

/-- What put an end to the firmware. -/
inductive Ending
  /-- The board had to sleep and was not allowed to. -/
  | halted
  | reset (kind : HardwareReset)
  deriving DecidableEq, Repr

structure Firmware where
  session : Session vocabulary
  registry : Device.Registry DeviceDriver
  support : Support
  watchdog : Watchdog
  disk : Disk
  /-- Entries of the log, newest first. -/
  log : List LogEntry
  ending : Option Ending

namespace Firmware

def script : String :=
  "CFE_LIB, /cf/sample_lib.so, SAMPLE_LibInit, SAMPLE_LIB, 0, 0, 0x0, 0;\n" ++
    "CFE_APP, /cf/sample_app.so, SAMPLE_AppMain, SAMPLE_APP, 50, 16384, 0x0, 0;\n" ++
    "!\n"

def bytesOf (text : String) : List UInt8 := text.toUTF8.data.toList

/-- The identity that the image carries. -/
def target : Target := .ofScript (bytesOf script)

/-- The watchdog timeout of the flight software's health services, in milliseconds. -/
def watchdogTimeout : UInt32 := 10000

/-- Firmware that has not begun to start up: it has read, and thereby cleared, the reset flags. -/
def build (session : Session vocabulary) (target : Target) : Firmware :=
  let (cause, state) := session.state.readResetFlags
  { session := { session with state }
    registry := .empty Settings.deviceCapacity
    support := ⟨target, cause⟩
    watchdog := .fresh
    disk := .blank
    log := []
    ending := none }

def write (firmware : Firmware) (entry : LogEntry) : Firmware :=
  { firmware with log := entry :: firmware.log }

/-- Carry out an operation of the watchdog on the board's hardware. -/
def driveWatchdog (operation : Watchdog.Operation) (firmware : Firmware) : Firmware :=
  let hardware := firmware.session.state
  let (watchdog, registers) :=
    firmware.watchdog.perform IndependentWatchdog.hardware operation hardware.registers.watchdog
  { firmware with
    watchdog
    session :=
      { firmware.session with
        state := { hardware with
          registers := { hardware.registers with watchdog := registers } } } }

/-- How commands reach the registered devices. -/
def invoke : Device.Registry.Invoke DeviceDriver (Session vocabulary) :=
  fun driver invocation session =>
    match driver with
    | .loadMonitor => session.command host invocation

/-- Start the load monitor through the registry, and answer the status of that. -/
def startMonitor (firmware : Firmware) : Int32 × Firmware :=
  let registry := firmware.registry
  let (located, session) :=
    (registry.resolve invoke Settings.monitorName "aggregate" "cpu-load").run firmware.session
  match located with
  | .ok location =>
    let (reply, session) := registry.command invoke location .setRunning (.number 1) session
    (reply.status, { firmware with session })
  | .error fault => (fault.code, { firmware with session })

/-- Run the main loop until the board comes to a halt. -/
def mainLoop (firmware : Firmware) : Firmware :=
  let (progress, session) := operate .mainLoop firmware.session
  { firmware with
    session
    ending := match progress with
      | .abandoned => some .halted
      | _ => firmware.ending }

/-- The entry of the flight software. -/
def systemMain (type : ResetType) (subtype : ResetSubtype) (mode : UInt32) (path : String)
    (firmware : Firmware) : Firmware :=
  let uptime := (SystemTime.ofTicks firmware.session.state.clock.ticks).micros.tdiv 1000
  let entered :=
    firmware.write (.entered firmware.support.target uptime type subtype mode path)
  let (status, started) := entered.startMonitor
  (if status < 0 then started.write (.monitorNotStarted status) else started).mainLoop

/-- Give up: the board is restarted as a processor reset. -/
def applicationExit (code : Int32) (firmware : Firmware) : Firmware :=
  { firmware.write (.exited code) with
    ending := some (.reset (firmware.support.restart .processor)) }

/-- The plain failure of a service. -/
def refuse {Result : Type} : Startup.Service Firmware Result := throw Fault.failed.code

/-- The services of the firmware during start-up. An open file is the offset at which it is written
next. -/
def services : Startup.Services Firmware Nat where
  apiInit := pure ()
  reservedMap := pure ()
  makeDisk device volume sectorSize sectorCount := do
    let firmware ← get
    match firmware.disk.format sectorSize sectorCount with
    | some disk =>
      set ({ firmware with disk }.write (.formatted device volume sectorSize sectorCount))
    | none => refuse
  mount _ mountPoint := do
    let firmware ← get
    match firmware.disk.mount with
    | some disk => set ({ firmware with disk }.write (.mounted mountPoint))
    | none => refuse
  create _ := do
    match (← get).disk.create with
    | some file => return file
    | none => refuse
  write file content := do
    let firmware ← get
    let (written, disk) := firmware.disk.write file content
    set { firmware with disk }
    return (.ok written, file + written)
  close _ := pure ()
  moduleInit := do
    let firmware ← get
    let (result, registry) := firmware.registry.register Settings.monitorName .loadMonitor
    set { firmware with registry }
    match result with
    | .ok _ => return
    | .error fault => throw fault.code
  setup := modify fun firmware =>
    ((firmware.driveWatchdog .reset).driveWatchdog (.setTimeout watchdogTimeout)).driveWatchdog
      .service
  resetCause firmware := firmware.support.cause
  reservedInit _ := pure ()
  systemMain type subtype mode path := modify (systemMain type subtype mode path)
  applicationExit code := modify (applicationExit code)

/-- Start up with an identity. Flight software that returns is given up with status zero. -/
def start (target : Target) (firmware : Firmware) : Firmware :=
  let started := (services.startApplication target firmware).2
  match started.ending with
  | some _ => started
  | none => started.applicationExit 0

/-- Everything that happens after a reset: the tick gets its priority, the timer is set up, the
reset flags are read, and the firmware starts up. The steps of setting up the timer are answered
beside the firmware. -/
def boot (session : Session vocabulary) : List TimerSetup × Firmware :=
  let prepared := { session with state := session.state.lowerTickPriority }
  (timerSetup, (build prepared target).start target)

end Firmware

end BoardSupport.Board
