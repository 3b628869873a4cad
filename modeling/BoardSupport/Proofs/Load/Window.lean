/-
This file relates the words that the sampler computes with to the unbounded counts
behind them. A counter of 32 bits shows a count modulo `2 ^ 32`, and two readings
of it show how far the count has come in between, as long as it has come less far
than the counter is wide. So a window between two readings has the true
figures, whichever of the two counters has rolled over meanwhile.
-/

import Mathlib.Algebra.Group.Nat.Defs
import Mathlib.Data.UInt
import BoardSupport.Load.Sampler
import BoardSupport.Proofs.Load.Codec

namespace BoardSupport

/-- The counts behind the two run-time counters. -/
structure Counts where
  total : Nat
  idle : Nat

namespace Counts

def runTime (counts : Counts) : RunTime := ⟨.ofNat counts.total, .ofNat counts.idle⟩

/-- Counts from which others can have come about: neither goes down, and of the time that passes
no more is idle than there is. -/
structure Precedes (earlier later : Counts) : Prop where
  idle : earlier.idle ≤ later.idle
  within : later.idle + earlier.total ≤ later.total + earlier.idle

theorem Precedes.refl (counts : Counts) : counts.Precedes counts :=
  ⟨Nat.le_refl _, Nat.le_of_eq (Nat.add_comm _ _)⟩

theorem Precedes.trans {first middle last : Counts} (earlier : first.Precedes middle)
    (later : middle.Precedes last) : first.Precedes last := by
  obtain ⟨earlierIdle, earlierWithin⟩ := earlier
  obtain ⟨laterIdle, laterWithin⟩ := later
  exact ⟨by omega, by omega⟩

theorem precedes_add (counts : Counts) {total idle : Nat} (within : idle ≤ total) :
    counts.Precedes ⟨counts.total + total, counts.idle + idle⟩ :=
  ⟨Nat.le_add_right _ _, by show _ + _ + _ ≤ _ + _ + _; omega⟩

end Counts

/-- The difference of two readings of a counter is how far the count has come. -/
theorem toNat_ofNat_sub_ofNat (earlier later : Nat) (order : earlier ≤ later)
    (near : later < earlier + 2 ^ 32) :
    (UInt32.ofNat later - UInt32.ofNat earlier).toNat = later - earlier := by
  rw [UInt32.toNat_sub, UInt32.toNat_ofNat', UInt32.toNat_ofNat']
  omega

namespace Sampler

theorem percent_le_full {part whole : Nat} (within : part ≤ whole) : 100 * part / whole ≤ 100 :=
  Nat.div_le_of_le_mul (by rw [Nat.mul_comm whole]; exact Nat.mul_le_mul_left 100 within)

/-- The idle share of a window in percent, as far as 32 bits can say. -/
theorem toNat_idlePercent_mod (totalElapsed idleElapsed : UInt32) :
    (idlePercent totalElapsed idleElapsed).toNat =
      100 * idleElapsed.toNat / totalElapsed.toNat % 2 ^ 32 := by
  have narrow : idleElapsed.toNat < 2 ^ 32 := idleElapsed.toNat_lt
  have product : (idleElapsed.toUInt64 * Settings.fullLoad.toUInt64).toNat =
      100 * idleElapsed.toNat := by
    rw [UInt64.toNat_mul, UInt32.toNat_toUInt64, UInt32.toNat_toUInt64, Settings.toNat_fullLoad]
    omega
  rw [idlePercent, UInt64.toNat_toUInt32, UInt64.toNat_div, product, UInt32.toNat_toUInt64]

/-- The idle share of a window whose idle time is within its total time. -/
theorem toNat_idlePercent (totalElapsed idleElapsed : UInt32)
    (within : idleElapsed.toNat ≤ totalElapsed.toNat) :
    (idlePercent totalElapsed idleElapsed).toNat =
      100 * idleElapsed.toNat / totalElapsed.toNat := by
  rw [toNat_idlePercent_mod]
  exact Nat.mod_eq_of_lt (Nat.lt_of_le_of_lt (percent_le_full within) (by decide))

/-- The load that an idle share leaves, where a difference below zero counts as zero. -/
theorem toNat_loadPercent (idlePercent : UInt32) :
    (loadPercent idlePercent).toNat = 100 - idlePercent.toNat := by
  by_cases within : idlePercent ≤ Settings.fullLoad
  · rw [loadPercent, if_pos within, UInt32.toNat_sub_of_le _ _ within, Settings.toNat_fullLoad]
  · have beyond : 100 < idlePercent.toNat := UInt32.lt_iff_toNat_lt.mp (UInt32.not_le.mp within)
    rw [loadPercent, if_neg within, UInt32.toNat_zero]
    omega

end Sampler

/-- A sample that shows the true figures of a window. -/
structure LoadSample.Measures (sample : LoadSample) (last now : Counts) : Prop where
  totalElapsed : sample.totalElapsed.toNat = now.total - last.total
  idleElapsed : sample.idleElapsed.toNat = now.idle - last.idle
  idle_le_total : sample.idleElapsed ≤ sample.totalElapsed
  loadPercent :
    sample.loadPercent.toNat = 100 - 100 * (now.idle - last.idle) / (now.total - last.total)

/-- A window in which some time has passed, less than the counter is wide, has the true figures. -/
theorem Sampler.window_measures (sampler : Sampler) (last now : Counts)
    (lastTotal : sampler.lastTotal = .ofNat last.total)
    (lastIdle : sampler.lastIdle = .ofNat last.idle) (precedes : last.Precedes now)
    (passed : last.total < now.total) (near : now.total < last.total + 2 ^ 32) :
    ∃ sample, sampler.window now.runTime = some sample ∧ sample.Measures last now := by
  obtain ⟨order, within⟩ := precedes
  have totalElapsed : (UInt32.ofNat now.total - UInt32.ofNat last.total).toNat =
      now.total - last.total := toNat_ofNat_sub_ofNat _ _ (Nat.le_of_lt passed) near
  have idleElapsed : (UInt32.ofNat now.idle - UInt32.ofNat last.idle).toNat =
      now.idle - last.idle := toNat_ofNat_sub_ofNat _ _ order (by omega)
  have within : now.idle - last.idle ≤ now.total - last.total := by omega
  have share := toNat_idlePercent (UInt32.ofNat now.total - UInt32.ofNat last.total)
    (UInt32.ofNat now.idle - UInt32.ofNat last.idle)
    (by rw [totalElapsed, idleElapsed]; exact within)
  rw [totalElapsed, idleElapsed] at share
  have nonzero : UInt32.ofNat now.total - UInt32.ofNat last.total ≠ 0 := by
    intro zero
    rw [zero, UInt32.toNat_zero] at totalElapsed
    omega
  refine ⟨_, by rw [window, Counts.runTime, lastTotal, lastIdle, if_neg nonzero], ?_⟩
  exact
    { totalElapsed, idleElapsed
      idle_le_total := UInt32.le_iff_toNat_le.mpr (by rw [totalElapsed, idleElapsed]; exact within)
      loadPercent := by
        rw [toNat_loadPercent, share] }

/-! ### Windows by the counters at which they begin -/

/-- How far the counters have come since an earlier reading. -/
def RunTime.since (now begun : RunTime) : RunTime :=
  ⟨now.total - begun.total, now.idle - begun.idle⟩

theorem RunTime.since_inj {now begun earlier : RunTime} :
    now.since begun = now.since earlier ↔ begun = earlier := by
  constructor
  · intro same
    obtain ⟨total, idle⟩ := RunTime.mk.inj same
    exact congrArg₂ RunTime.mk ((UInt32.sub_right_inj _).mp total)
      ((UInt32.sub_right_inj _).mp idle)
  · exact congrArg now.since

theorem RunTime.since_left_inj {now other begun : RunTime} :
    now.since begun = other.since begun ↔ now = other := by
  constructor
  · intro same
    obtain ⟨total, idle⟩ := RunTime.mk.inj same
    exact congrArg₂ RunTime.mk ((UInt32.sub_left_inj _).mp total)
      ((UInt32.sub_left_inj _).mp idle)
  · exact congrArg fun reading : RunTime => reading.since begun

namespace Sampler

/-- A sampler that measures from some counters onwards. -/
def begunAt (counters : RunTime) : Sampler := ⟨counters.total, counters.idle, 0⟩

theorem begunAt_zero : begunAt ⟨0, 0⟩ = zero := rfl

theorem window_eq_none_iff (sampler : Sampler) (now : RunTime) :
    sampler.window now = none ↔ now.total = sampler.lastTotal := by
  rw [← sub_eq_zero (a := now.total)]
  simp only [window]
  split
  · rename_i still
    exact ⟨fun _ => still, fun _ => rfl⟩
  · rename_i passed
    exact ⟨nofun, fun still => absurd still passed⟩

theorem elapsed_of_window {begun now : RunTime} {sample : LoadSample}
    (reported : (begunAt begun).window now = some sample) :
    (⟨sample.totalElapsed, sample.idleElapsed⟩ : RunTime) = now.since begun := by
  simp only [window] at reported
  split at reported
  · cases reported
  · rw [← Option.some_inj.mp reported]
    rfl

/-- A report is the report of another window exactly if the counters come equally far in both. -/
theorem window_eq_some_iff {begun now : RunTime} {sample : LoadSample}
    (reported : (begunAt begun).window now = some sample) (otherBegun other : RunTime) :
    (begunAt otherBegun).window other = some sample ↔
      other.since otherBegun = now.since begun := by
  constructor
  · intro otherReported
    rw [← elapsed_of_window reported, ← elapsed_of_window otherReported]
  · intro same
    obtain ⟨total, idle⟩ := RunTime.mk.inj same
    rw [← reported]
    show (if other.total - otherBegun.total = 0 then _ else _) =
      if now.total - begun.total = 0 then _ else _
    simp only [begunAt, total, idle]

end Sampler

end BoardSupport
