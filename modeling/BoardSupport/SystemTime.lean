/-
This file holds the time base. Time is counted in microseconds from a raw tick
counter of 32 bits; the counter's rollovers are not tracked, so the upper word
of the timebase is always zero.
-/

import BoardSupport.Settings

namespace BoardSupport

/-- A time in microseconds. Times before the epoch are negative. -/
structure SystemTime where
  micros : Int
  deriving DecidableEq, Repr

namespace SystemTime

def microsPerSecond : Int := 1000000

/-- Whole seconds, counted towards zero. -/
def seconds (time : SystemTime) : Int := time.micros.tdiv microsPerSecond

/-- Microseconds beyond the whole seconds, as a word of 32 bits. Before the epoch the rest is
negative and the word is its two's complement. -/
def subseconds (time : SystemTime) : UInt32 :=
  UInt32.ofInt (time.micros.tmod microsPerSecond)

def ofTicks (ticks : UInt32) : SystemTime :=
  ⟨ticks.toNat * microsPerSecond / Settings.tickRate.toNat⟩

def order (first second : SystemTime) : Ordering := compare first.micros second.micros

end SystemTime

/-- The two words of the timebase: rollovers of the counter, and the counter. -/
structure Timebase where
  upper : UInt32
  lower : UInt32
  deriving DecidableEq, Repr

def Timebase.ofTicks (ticks : UInt32) : Timebase := ⟨0, ticks⟩

end BoardSupport
