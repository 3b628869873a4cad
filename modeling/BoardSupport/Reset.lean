/-
This file tells resets apart. The board reports what caused its last reset; the
flight software wants to know whether memory was lost (a power-on reset) or
not (a processor reset), and which kind of event it was. In the other
direction a wanted reset type decides what is asked of the hardware.
-/

namespace BoardSupport

/-- What memory survives a reset: none after a power-on reset, the reserved areas after a processor
reset. -/
inductive ResetType
  | powerOn
  | processor
  deriving DecidableEq, Repr

/-- Which event led to a reset. -/
inductive ResetSubtype
  | powerCycle
  | pushButton
  | hardwareCommand
  | hardwareWatchdog
  | resetCommand
  | exception
  | undefinedReset
  | debugReset
  | bankSwitch
  deriving DecidableEq, Repr

/-- The cause of a reset as the board reports it. -/
inductive ResetCause
  | powerOn
  | brownout
  | pin
  | watchdog
  /-- A restart that software asked for. -/
  | software
  | debug
  /-- The board cannot tell. -/
  | unknown
  deriving DecidableEq, Repr

/-- A reset that the hardware can carry out. -/
inductive HardwareReset
  | powerOn
  | software
  deriving DecidableEq, Repr

namespace ResetType

def code : ResetType → UInt32
  | powerOn => 1
  | processor => 2

/-- All reset types in the order of their numbers. -/
def all : List ResetType := [powerOn, processor]

def name : ResetType → String
  | powerOn => "PowerOn"
  | processor => "Processor"

end ResetType

namespace ResetSubtype

def code : ResetSubtype → UInt32
  | powerCycle => 1
  | pushButton => 2
  | hardwareCommand => 3
  | hardwareWatchdog => 4
  | resetCommand => 5
  | exception => 6
  | undefinedReset => 7
  | debugReset => 8
  | bankSwitch => 9

def all : List ResetSubtype :=
  [powerCycle, pushButton, hardwareCommand, hardwareWatchdog, resetCommand, exception,
    undefinedReset, debugReset, bankSwitch]

def name : ResetSubtype → String
  | powerCycle => "PowerCycle"
  | pushButton => "PushButton"
  | hardwareCommand => "HwSpecialCommand"
  | hardwareWatchdog => "HwWatchdog"
  | resetCommand => "ResetCommand"
  | exception => "Exception"
  | undefinedReset => "UndefinedReset"
  | debugReset => "HwDebugReset"
  | bankSwitch => "BankSwitchReset"

end ResetSubtype

/-- Type and subtype of a reset. Whatever interrupts the supply loses memory; everything else is a
processor reset. -/
def ResetCause.classify : ResetCause → ResetType × ResetSubtype
  | powerOn | brownout => (.powerOn, .powerCycle)
  | pin => (.processor, .pushButton)
  | watchdog => (.processor, .hardwareWatchdog)
  | software => (.processor, .resetCommand)
  | debug => (.processor, .debugReset)
  | unknown => (.processor, .undefinedReset)

/-- The reset that the hardware is asked for when a type is wanted. -/
def HardwareReset.ofType : ResetType → HardwareReset
  | .powerOn => powerOn
  | .processor => software

/-- A reset is a power-on reset exactly if the supply was interrupted. -/
theorem classify_powerOn_iff (cause : ResetCause) :
    cause.classify.1 = .powerOn ↔ cause = .powerOn ∨ cause = .brownout := by
  cases cause <;> simp [ResetCause.classify]

/-- What the flight software is told of a reset. An interrupted supply is a power-on reset and a
power cycle; every other cause is a processor reset, with a subtype that no other cause has. -/
structure ResetCause.Classified (cause : ResetCause) (type : ResetType) (subtype : ResetSubtype) :
    Prop where
  powerOn : type = .powerOn ↔ cause = .powerOn ∨ cause = .brownout
  powerCycle : subtype = .powerCycle ↔ cause = .powerOn ∨ cause = .brownout
  pushButton : subtype = .pushButton ↔ cause = .pin
  hardwareWatchdog : subtype = .hardwareWatchdog ↔ cause = .watchdog
  resetCommand : subtype = .resetCommand ↔ cause = .software
  debugReset : subtype = .debugReset ↔ cause = .debug
  undefinedReset : subtype = .undefinedReset ↔ cause = .unknown

theorem classified_classify (cause : ResetCause) :
    cause.Classified cause.classify.1 cause.classify.2 := by
  refine ⟨classify_powerOn_iff cause, ?_, ?_, ?_, ?_, ?_, ?_⟩ <;>
    cases cause <;> simp [ResetCause.classify]

end BoardSupport
