/-
This file reads the reset flags of the board's clock controller. Several flags
are set after one reset: an internal reset also pulls the reset pin, and a
power-on reset also trips the brown-out detector. The most telling flag is
therefore looked at first.
-/

import BoardSupport.Reset

namespace BoardSupport.Board.ResetFlags

def address : UInt32 := 0x40023874

/-- Writing this bit clears the flags. -/
def clear : UInt32 := 0x01000000

/-- The supply voltage dropped. -/
def brownout : UInt32 := 0x02000000
/-- The reset pin was pulled. -/
def pin : UInt32 := 0x04000000
/-- The board was switched on. -/
def powerOn : UInt32 := 0x08000000
/-- Software asked for the reset. -/
def software : UInt32 := 0x10000000
/-- The independent watchdog ran out. -/
def independentWatchdog : UInt32 := 0x20000000
/-- The window watchdog ran out. -/
def windowWatchdog : UInt32 := 0x40000000
/-- A low-power mode was entered against the rules. -/
def lowPower : UInt32 := 0x80000000

def has (flags mask : UInt32) : Bool := flags &&& mask ≠ 0

def cause (flags : UInt32) : ResetCause :=
  if has flags powerOn then .powerOn
  else if has flags brownout then .brownout
  else if has flags (independentWatchdog ||| windowWatchdog) then .watchdog
  else if has flags software then .software
  else if has flags lowPower then .unknown
  else if has flags pin then .pin
  else .unknown

end BoardSupport.Board.ResetFlags
