/-
This file holds the board's clock. An interrupt advances the tick counter and,
while the board is waiting in a delay, the idle counter as well; both are words
of 32 bits and roll over. The board has no other scheduler, so time spent in
delays is its idle time and everything else is load.
-/

import BoardSupport.Load.Sampler

namespace BoardSupport.Board

/-- The two counters of the board, and whether it waits in a delay. -/
structure Clock where
  ticks : UInt32
  idleTicks : UInt32
  idle : Bool
  deriving DecidableEq, Repr

namespace Clock

def zero : Clock := ⟨0, 0, false⟩

def tick (clock : Clock) : Clock :=
  { clock with
    ticks := clock.ticks + 1
    idleTicks := if clock.idle then clock.idleTicks + 1 else clock.idleTicks }

def ticked (count : Nat) (clock : Clock) : Clock := count.repeat tick clock

/-- The counters as the load monitor reads them. -/
def runTime (clock : Clock) : RunTime := ⟨clock.ticks, clock.idleTicks⟩

/-- Ticks in a delay of some milliseconds. -/
def ticksOf (milliseconds : UInt32) : UInt32 :=
  (milliseconds.toUInt64 * Settings.tickRate.toUInt64 / 1000).toUInt32

/-- Whether a delay of `span` ticks that began at `start` still lasts. The difference is taken
modulo the width of the counter, so a rollover during the delay does not matter. -/
def waiting (clock : Clock) (start span : UInt32) : Bool := clock.ticks - start < span

theorem tick_ticks (clock : Clock) : clock.tick.ticks = clock.ticks + 1 := rfl

theorem tick_idle (clock : Clock) : clock.tick.idle = clock.idle := rfl

end Clock

/-! ### Setting up the tick -/

inductive TimerSetup
  | setReload (value : UInt32)
  | clearCurrent
  | useCoreClock
  | enableCounter
  | enableInterrupt
  deriving DecidableEq, Repr

/-- The steps that make the timer tick at the board's rate. -/
def timerSetup : List TimerSetup :=
  [.setReload (Settings.processorClock / Settings.tickRate - 1), .clearCurrent, .useCoreClock,
    .enableCounter, .enableInterrupt]

/-- The priority register with the tick at the lowest priority. -/
def lowestTickPriority (register : UInt32) : UInt32 := register ||| 0xFF000000

end BoardSupport.Board
