/-
This file follows the sampler where its counters contradict one another. If more time
passes idle than passes at all, the idle share exceeds a hundred percent and no load
should be left. The share is formed in 64 bits, but a word holds only its low half, and
what is subtracted from the full load is the word. Of a share that needs more than 32
bits any percentage may remain, and the load comes out too high unless what remains is
a hundred percent again. Only in a window of less than a hundred ticks can a share
become that large.
-/

import BoardSupport.Proofs.Load.Window

namespace BoardSupport

namespace RunTime

/-- The idle share of some run time in percent, rounded down, however large it is. -/
def idleShare (elapsed : RunTime) : Nat := 100 * elapsed.idle.toNat / elapsed.total.toNat

/-- The load in percent, and none where more time is idle than there is. -/
def exactLoad (elapsed : RunTime) : Nat := 100 - elapsed.idleShare

/-- The idle share says the same of the load if only its low 32 bits are kept: none are lost, or
what is kept leaves no load either. -/
def KeepsShare (elapsed : RunTime) : Prop :=
  elapsed.idleShare < 2 ^ 32 ∨ 100 ≤ elapsed.idleShare % 2 ^ 32

theorem full_le_idleShare {elapsed : RunTime} (passed : elapsed.total ≠ 0)
    (exceeds : elapsed.total ≤ elapsed.idle) : 100 ≤ elapsed.idleShare := by
  have positive : 0 < elapsed.total.toNat :=
    Nat.pos_of_ne_zero fun zero => passed (UInt32.toNat_inj.mp zero)
  rw [idleShare, Nat.le_div_iff_mul_le positive]
  exact Nat.mul_le_mul_left 100 (UInt32.le_iff_toNat_le.mp exceeds)

/-- In a hundred ticks or more no idle time makes the share too large for a word. -/
theorem idleShare_lt_of_long {elapsed : RunTime} (long : 100 ≤ elapsed.total.toNat) :
    elapsed.idleShare < 2 ^ 32 := by
  have narrow : elapsed.idle.toNat < 2 ^ 32 := elapsed.idle.toNat_lt
  rw [idleShare, Nat.div_lt_iff_lt_mul (by omega)]
  calc 100 * elapsed.idle.toNat
    _ < 100 * 2 ^ 32 := (Nat.mul_lt_mul_left (by decide)).mpr narrow
    _ ≤ 2 ^ 32 * elapsed.total.toNat := by omega

/-- A share that reaches `2 ^ 32` percent and leaves less than a hundred of them above. -/
theorem not_keepsShare {elapsed : RunTime} {rest : Nat} (passed : elapsed.total ≠ 0)
    (reaches : 100 * elapsed.idle.toNat = 2 ^ 32 * elapsed.total.toNat + rest)
    (small : rest < 100) : ¬ elapsed.KeepsShare := by
  have positive : 0 < elapsed.total.toNat :=
    Nat.pos_of_ne_zero fun zero => passed (UInt32.toNat_inj.mp zero)
  have share : elapsed.idleShare = 2 ^ 32 + rest / elapsed.total.toNat := by
    rw [idleShare, reaches, Nat.mul_comm, Nat.mul_add_div positive]
  have above : rest / elapsed.total.toNat < 100 := Nat.lt_of_le_of_lt (Nat.div_le_self _ _) small
  rw [KeepsShare, share, Nat.add_mod_left, Nat.mod_eq_of_lt (Nat.lt_trans above (by decide))]
  exact not_or.mpr ⟨Nat.not_lt.mpr (Nat.le_add_right _ _), Nat.not_le.mpr above⟩

/-- The windows in which no idle time at all can spoil the share are those of a hundred ticks or
more. -/
theorem every_idle_keepsShare_iff {total : UInt32} (passed : total ≠ 0) :
    (∀ idle, KeepsShare ⟨total, idle⟩) ↔ 100 ≤ total.toNat := by
  constructor
  · intro keeps
    by_contra short
    -- The least idle time whose share no longer fits into 32 bits.
    let least := (2 ^ 32 * total.toNat + 99) / 100
    have fits : (UInt32.ofNat least).toNat = least := UInt32.toNat_ofNat_of_lt' (by
      show _ < 2 ^ 32
      omega)
    have reaches : 100 * (UInt32.ofNat least).toNat =
        2 ^ 32 * total.toNat + (100 * least - 2 ^ 32 * total.toNat) := by
      rw [fits]
      omega
    exact not_keepsShare passed reaches (by omega) (keeps (.ofNat least))
  · exact fun long idle => .inl (idleShare_lt_of_long long)

end RunTime

namespace Sampler

/-- The run time since the last reading, as far as the counters show it. -/
def elapsed (sampler : Sampler) (now : RunTime) : RunTime :=
  now.since ⟨sampler.lastTotal, sampler.lastIdle⟩

theorem elapsed_total_ne_zero {sampler : Sampler} {now : RunTime}
    (passed : now.total ≠ sampler.lastTotal) : (sampler.elapsed now).total ≠ 0 :=
  fun still => passed (sub_eq_zero.mp still)

/-- The load that the sampler makes of some run time. -/
theorem toNat_loadPercent_idlePercent (elapsed : RunTime) :
    (loadPercent (idlePercent elapsed.total elapsed.idle)).toNat =
      100 - elapsed.idleShare % 2 ^ 32 := by
  rw [toNat_loadPercent, toNat_idlePercent_mod, RunTime.idleShare]

/-- A step of the sampler that shows the run time since the last reading and the load it makes of
it, and publishes the code of that load. -/
structure Reports (sampler : Sampler) (now : RunTime) (sample : LoadSample) (code : UInt32) :
    Prop where
  update : sampler.update now = (some sample, ⟨now.total, now.idle, code⟩)
  elapsed : (⟨sample.totalElapsed, sample.idleElapsed⟩ : RunTime) = sampler.elapsed now
  loadPercent : sample.loadPercent.toNat = 100 - (sampler.elapsed now).idleShare % 2 ^ 32
  encoded : LoadCode.encode sample.loadPercent = .ok code

theorem exists_reports {sampler : Sampler} {now : RunTime}
    (passed : now.total ≠ sampler.lastTotal) : ∃ sample code, sampler.Reports now sample code := by
  let idle := idlePercent (sampler.elapsed now).total (sampler.elapsed now).idle
  have window : sampler.window now =
      some ⟨(sampler.elapsed now).total, (sampler.elapsed now).idle, idle, loadPercent idle⟩ :=
    if_neg (elapsed_total_ne_zero passed)
  have step : sampler.update now = (sampler.window now, ⟨now.total, now.idle, _⟩) := rfl
  rw [window] at step
  exact ⟨_, _, step, rfl, toNat_loadPercent_idlePercent (sampler.elapsed now),
    LoadCode.encode_of_le (loadPercent_le idle)⟩

/-- Only for no load at all is the code zero. -/
theorem Reports.code_eq_zero_iff {sampler : Sampler} {now : RunTime} {sample : LoadSample}
    {code : UInt32} (reports : sampler.Reports now sample code) :
    code = 0 ↔ sample.loadPercent.toNat = 0 := by
  have bounded : sample.loadPercent.toNat ≤ 100 := by
    rw [reports.loadPercent]
    exact Nat.sub_le _ _
  have scaled : code = LoadCode.ofPercent sample.loadPercent :=
    Except.ok.inj (reports.encoded.symm.trans (LoadCode.encode_eq_ok (by omega)))
  constructor
  · intro none
    rw [← LoadCode.decode_ofPercent bounded, ← scaled, none]
    rfl
  · intro none
    have zero : sample.loadPercent = 0 := UInt32.toNat_inj.mp none
    rw [scaled, zero, LoadCode.ofPercent_zero]

/-- Any counters give a report once time has passed, also such as contradict one another. Its load
is the exact one if and only if the idle share keeps what it says in a word, and where more time is
idle than there is, this decides whether no load is published. A window of less than a hundred
ticks has idle times whose share does not. -/
theorem load_exact_iff_keeps_share (sampler : Sampler) (now : RunTime)
    (passed : now.total ≠ sampler.lastTotal) :
    ∃ sample code, sampler.Reports now sample code ∧
      (sample.loadPercent.toNat = (sampler.elapsed now).exactLoad ↔
        (sampler.elapsed now).KeepsShare) ∧
      ((sampler.elapsed now).total ≤ (sampler.elapsed now).idle →
        (code = 0 ↔ (sampler.elapsed now).KeepsShare)) ∧
      ((∀ idle, RunTime.KeepsShare ⟨(sampler.elapsed now).total, idle⟩) ↔
        100 ≤ (sampler.elapsed now).total.toNat) := by
  obtain ⟨sample, code, reports⟩ := exists_reports passed
  refine ⟨sample, code, reports, ?_, ?_,
    RunTime.every_idle_keepsShare_iff (elapsed_total_ne_zero passed)⟩
  · rw [reports.loadPercent, RunTime.exactLoad, RunTime.KeepsShare]
    omega
  · intro exceeds
    have full := RunTime.full_le_idleShare (elapsed_total_ne_zero passed) exceeds
    rw [reports.code_eq_zero_iff, reports.loadPercent, RunTime.KeepsShare]
    omega

/-- One tick in which the idle counter jumps: of the share of 4294967300 percent a word keeps 4
percent, and 96 percent are published as the load. -/
theorem load_exact_iff_keeps_share_one_tick :
    ¬ (zero.elapsed ⟨1, 42949673⟩).KeepsShare ∧
      ∃ sample code, zero.Reports ⟨1, 42949673⟩ sample code ∧
        sample.loadPercent.toNat = 96 ∧ code ≠ 0 := by
  have loses : ¬ (zero.elapsed ⟨1, 42949673⟩).KeepsShare := by
    show ¬ (4294967300 < 2 ^ 32 ∨ 100 ≤ 4294967300 % 2 ^ 32)
    omega
  obtain ⟨sample, code, reports, -, published, -⟩ :=
    load_exact_iff_keeps_share zero ⟨1, 42949673⟩ (by decide)
  refine ⟨loses, sample, code, reports, reports.loadPercent, fun none => loses ?_⟩
  exact (published (by decide)).mp none

/-- The load is not exact for all counters, and it does not vanish whenever more time is idle than
there is: a single tick against 42949673 idle ones disproves both. -/
theorem not_load_always_exact :
    ¬ ∀ (sampler : Sampler) (now : RunTime), now.total ≠ sampler.lastTotal →
        ∃ sample code, sampler.update now = (some sample, ⟨now.total, now.idle, code⟩) ∧
          sample.loadPercent.toNat = (sampler.elapsed now).exactLoad ∧
          LoadCode.encode sample.loadPercent = .ok code ∧
          ((sampler.elapsed now).total ≤ (sampler.elapsed now).idle → code = 0) := by
  intro exact
  obtain ⟨sample, code, update, -, -, none⟩ := exact zero ⟨1, 42949673⟩ (by decide)
  have published : code = (zero.update ⟨1, 42949673⟩).2.averageLoad := by rw [update]
  rw [none (by decide)] at published
  exact absurd published (by decide)

end Sampler

end BoardSupport
