/-
This file turns readings of two free-running counters into a load. One counter
advances with all run time, the other with the run time spent idle. Between
two readings the idle share is `idle * 100 / total` percent and the load is
what is left of a hundred. Both differences are taken modulo `2 ^ 32`, so a
counter may roll over between two readings. The main definition is
`Sampler.update`, which folds one reading into the state.
-/

import BoardSupport.Load.Code

namespace BoardSupport

structure RunTime where
  total : UInt32
  idle : UInt32
  deriving DecidableEq, Repr

structure LoadSample where
  totalElapsed : UInt32
  idleElapsed : UInt32
  idlePercent : UInt32
  loadPercent : UInt32
  deriving DecidableEq, Repr

/-- The state that measuring carries from one window to the next. -/
structure Sampler where
  lastTotal : UInt32
  lastIdle : UInt32
  /-- Published code of the last window. -/
  averageLoad : UInt32
  deriving DecidableEq, Repr

namespace Sampler

def zero : Sampler := ⟨0, 0, 0⟩

/-- The idle share of a window in percent. The quotient is formed in 64 bits and its low 32 bits
are kept. -/
def idlePercent (totalElapsed idleElapsed : UInt32) : UInt32 :=
  (idleElapsed.toUInt64 * Settings.fullLoad.toUInt64 / totalElapsed.toUInt64).toUInt32

/-- What an idle share leaves of the full load, and nothing when the share exceeds it. -/
def loadPercent (idlePercent : UInt32) : UInt32 :=
  if idlePercent ≤ Settings.fullLoad then Settings.fullLoad - idlePercent else 0

/-- The figures of the window between the last reading and `now`; none when no run time has
passed. -/
def window (sampler : Sampler) (now : RunTime) : Option LoadSample :=
  let totalElapsed := now.total - sampler.lastTotal
  let idleElapsed := now.idle - sampler.lastIdle
  if totalElapsed = 0 then none
  else
    let idle := idlePercent totalElapsed idleElapsed
    some ⟨totalElapsed, idleElapsed, idle, loadPercent idle⟩

/-- The code published for a window; an empty window publishes no load. -/
def publishedCode : Option LoadSample → UInt32
  | some sample => LoadCode.ofPercent sample.loadPercent
  | none => 0

/-- Fold a reading into the state, with the figures of the window that it closes. -/
def update (sampler : Sampler) (now : RunTime) : Option LoadSample × Sampler :=
  let sample := sampler.window now
  (sample, ⟨now.total, now.idle, publishedCode sample⟩)

/-- Fold readings into the state one after the other, with every state on the way. -/
def updateAll (sampler : Sampler) : List RunTime → List (Option LoadSample × Sampler)
  | [] => []
  | now :: rest => sampler.update now :: (sampler.update now).2.updateAll rest

theorem update_averageLoad (sampler : Sampler) (now : RunTime) :
    (sampler.update now).2.averageLoad = publishedCode (sampler.window now) := rfl

/-- The load never exceeds a hundred percent, whatever the counters were. -/
theorem loadPercent_le (idlePercent : UInt32) : loadPercent idlePercent ≤ Settings.fullLoad := by
  unfold loadPercent
  split
  · rename_i le
    rw [UInt32.le_iff_toNat_le] at le ⊢
    rw [UInt32.toNat_sub_of_le _ _ (UInt32.le_iff_toNat_le.mpr le)]
    omega
  · decide

end Sampler

end BoardSupport
