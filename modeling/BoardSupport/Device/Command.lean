/-
This file holds the commands of the device protocol. Every device, whether it
is hardware or only software, is driven by the same eleven commands; a raw
command word that is none of their codes has no meaning. The first eight
concern the device itself and the last three its analog channels, whose codes
start at a base of their own.
-/

namespace BoardSupport.Device

/-- First code of the commands for analog channels. -/
def analogBase : UInt32 := 0x10000

/-- What a device can be asked to do. -/
inductive Command
  | noop
  /-- Starts the device for a number other than zero and stops it for zero. -/
  | setRunning
  | getRunning
  | setConfiguration
  | getConfiguration
  | lookupSubsystem
  | lookupSubchannel
  | queryDirection
  | analogNoop
  | analogRead
  | analogWrite
  deriving DecidableEq, Repr

namespace Command

def code : Command → UInt32
  | noop => 0
  | setRunning => 1
  | getRunning => 2
  | setConfiguration => 3
  | getConfiguration => 4
  | lookupSubsystem => 5
  | lookupSubchannel => 6
  | queryDirection => 7
  | analogNoop => analogBase
  | analogRead => analogBase + 1
  | analogWrite => analogBase + 2

def all : List Command :=
  [noop, setRunning, getRunning, setConfiguration, getConfiguration, lookupSubsystem,
    lookupSubchannel, queryDirection, analogNoop, analogRead, analogWrite]

def ofCode? (word : UInt32) : Option Command :=
  all.find? fun command => command.code = word

theorem ofCode?_code (command : Command) : ofCode? command.code = some command := by
  cases command <;> decide

theorem code_of_ofCode? {word : UInt32} {command : Command} (found : ofCode? word = some command) :
    command.code = word := by
  have matching := List.find?_some found
  exact of_decide_eq_true matching

end Command

end BoardSupport.Device
