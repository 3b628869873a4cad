/-
This file holds the board's independent watchdog. It counts down from a reload
value of twelve bits, one step in eight milliseconds, and resets the board when
it reaches zero. It is driven through keys: one starts it, one unlocks its
other registers, one makes it count from the start again. Nothing stops it but
a reset.
-/

import BoardSupport.Watchdog.Timer

namespace BoardSupport.Board.IndependentWatchdog

/-! ### Registers -/

def keyAddress : UInt32 := 0x40003000

def prescalerAddress : UInt32 := 0x40003004

def reloadAddress : UInt32 := 0x40003008

def statusAddress : UInt32 := 0x4000300C

/-- The key that unlocks the prescaler and reload registers. -/
def unlockKey : UInt32 := 0x5555

/-- The key that makes the count start again. -/
def reloadKey : UInt32 := 0xAAAA

/-- The key that starts the watchdog. -/
def startKey : UInt32 := 0xCCCC

/-- The prescaler setting for a 256th of the clock. -/
def prescalerSetting : UInt32 := 6

structure Registers where
  key : UInt32
  prescaler : UInt32
  reload : UInt32
  deriving DecidableEq, Repr

/-! ### Timeouts -/

/-- Milliseconds between two steps of the count: a clock of 32 kHz divided by 256. -/
def stepTime : UInt32 := 8

def largestReload : UInt32 := 0x0FFF

/-- The reload value for a timeout; none for a timeout of zero. -/
def reloadFor (timeout : UInt32) : Option UInt32 :=
  if timeout = 0 then none
  else
    let steps := timeout / stepTime
    some (if steps = 0 then 1 else if steps > largestReload then largestReload else steps)

def timeoutOf (reload : UInt32) : UInt32 := reload * stepTime

/-- The timeout kept when another one was asked for, zero if none. -/
def keptTimeout (timeout : UInt32) : UInt32 :=
  match reloadFor timeout with
  | some reload => timeoutOf reload
  | none => 0

/-! ### The hardware -/

/-- What a write to an address does to the registers. The watchdog has no others that are written. -/
def Registers.write (address value : UInt32) (registers : Registers) : Registers :=
  if address = keyAddress then { registers with key := value }
  else if address = prescalerAddress then { registers with prescaler := value }
  else if address = reloadAddress then { registers with reload := value }
  else registers

section Driving

/-! How the watchdog is driven does not depend on what a write does, so the writes are left open. -/

variable {Memory : Type} (write : (address value : UInt32) → Memory → Memory)

/-- Start the watchdog with a reload value. The registers are unlocked before they are written, and
the count starts anew at the end. -/
def start (reload : UInt32) (memory : Memory) : Memory :=
  let started := write keyAddress startKey memory
  let unlocked := write keyAddress unlockKey started
  let programmed := write reloadAddress reload (write prescalerAddress prescalerSetting unlocked)
  write keyAddress reloadKey programmed

/-- The watchdog as hardware of the flight software's watchdog. It ignores being disabled, and is
not armed with a timeout of zero. -/
def hardwareOn : Watchdog.Hardware Memory where
  disable memory := memory
  enable timeout memory :=
    match reloadFor timeout with
    | some reload => (timeoutOf reload, start write reload memory)
    | none => (0, memory)
  feed := write keyAddress reloadKey

end Driving

def hardware : Watchdog.Hardware Registers := hardwareOn Registers.write

end BoardSupport.Board.IndependentWatchdog
