/-
This file follows the sampler over a whole run of readings. Each window begins where
the one before it ended, since a reading is all that the sampler keeps of it, so the
windows lie side by side and cover the time of the run: what they report adds up to
what the counters have advanced, through any number of rollovers. The percentage
that is read back from the published code is the exact one, although it is rounded
three times on its way.
-/

import Mathlib.Data.List.Forall2
import BoardSupport.Proofs.Load.Window

namespace BoardSupport

namespace Counts

/-- A reading that is taken in time: neither counter can have gone round since the last one. -/
structure InTime (last now : Counts) : Prop where
  precedes : last.Precedes now
  near : now.total < last.total + 2 ^ 32

/-- What a step of the sampler makes of the time between two readings. -/
structure ShownBy (last now : Counts) (result : Option LoadSample × Sampler) : Prop where
  lastTotal : result.2.lastTotal = .ofNat now.total
  lastIdle : result.2.lastIdle = .ofNat now.idle
  /-- If time has passed, its figures are reported, and its load can be read back. -/
  passed : last.total < now.total → ∃ sample, result.1 = some sample ∧ sample.Measures last now ∧
    (LoadCode.decode result.2.averageLoad).toNat =
      100 - 100 * (now.idle - last.idle) / (now.total - last.total)
  stood : now.total = last.total → result.1 = none ∧ result.2.averageLoad = 0

end Counts

/-- The run time that a step of the sampler reports; a step without a sample reports none. -/
def reportedTotal (result : Option LoadSample × Sampler) : Nat :=
  result.1.elim 0 fun sample => sample.totalElapsed.toNat

def reportedIdle (result : Option LoadSample × Sampler) : Nat :=
  result.1.elim 0 fun sample => sample.idleElapsed.toNat

/-! ### One window -/

theorem Sampler.update_shows (sampler : Sampler) (last now : Counts)
    (lastTotal : sampler.lastTotal = .ofNat last.total)
    (lastIdle : sampler.lastIdle = .ofNat last.idle) (inTime : last.InTime now) :
    last.ShownBy now (sampler.update now.runTime) where
  lastTotal := rfl
  lastIdle := rfl
  passed passed := by
    obtain ⟨sample, window, measures⟩ :=
      sampler.window_measures last now lastTotal lastIdle inTime.precedes passed inTime.near
    refine ⟨sample, window, measures, ?_⟩
    have bounded : sample.loadPercent.toNat ≤ 100 := by
      rw [measures.loadPercent]
      exact Nat.sub_le _ _
    rw [update_averageLoad, window, publishedCode, LoadCode.decode_ofPercent bounded,
      measures.loadPercent]
  stood stood := by
    have still : now.runTime.total - sampler.lastTotal = 0 := by
      rw [Counts.runTime, lastTotal, stood]
      exact UInt32.sub_self _
    have none : sampler.window now.runTime = none := by rw [window, if_pos still]
    exact ⟨none, by rw [update_averageLoad, none, publishedCode]⟩

namespace Counts

theorem ShownBy.reportedTotal_eq {last now : Counts} {result : Option LoadSample × Sampler}
    (shown : last.ShownBy now result) (inTime : last.InTime now) :
    last.total + reportedTotal result = now.total := by
  obtain ⟨⟨idle, within⟩, -⟩ := inTime
  by_cases passed : last.total < now.total
  · obtain ⟨sample, reported, measures, -⟩ := shown.passed passed
    rw [reportedTotal, reported, Option.elim_some, measures.totalElapsed]
    omega
  · have stood : now.total = last.total := by omega
    rw [reportedTotal, (shown.stood stood).1, Option.elim_none, stood, Nat.add_zero]

theorem ShownBy.reportedIdle_eq {last now : Counts} {result : Option LoadSample × Sampler}
    (shown : last.ShownBy now result) (inTime : last.InTime now) :
    last.idle + reportedIdle result = now.idle := by
  obtain ⟨⟨idle, within⟩, -⟩ := inTime
  by_cases passed : last.total < now.total
  · obtain ⟨sample, reported, measures, -⟩ := shown.passed passed
    rw [reportedIdle, reported, Option.elim_some, measures.idleElapsed]
    omega
  · have stood : now.total = last.total := by omega
    rw [reportedIdle, (shown.stood stood).1, Option.elim_none]
    omega

end Counts

/-! ### Window by window -/

namespace Sampler

theorem updateAll_shows (sampler : Sampler) (first : Counts) (reads : List Counts)
    (lastTotal : sampler.lastTotal = .ofNat first.total)
    (lastIdle : sampler.lastIdle = .ofNat first.idle)
    (inTime : List.IsChain Counts.InTime (first :: reads)) :
    List.Forall₂ (fun between result => between.1.ShownBy between.2 result)
      ((first :: reads).zip reads) (sampler.updateAll (reads.map Counts.runTime)) := by
  induction reads generalizing sampler first with
  | nil => exact .nil
  | cons now rest inductionHypothesis =>
    obtain ⟨next, others⟩ := List.isChain_cons_cons.mp inTime
    exact .cons (sampler.update_shows first now lastTotal lastIdle next)
      (inductionHypothesis (sampler.update now.runTime).2 now rfl rfl others)

/-- Windows of which each shows the time between two readings add up to the time between the first
reading and the last. -/
theorem sum_of_shows (reported : Option LoadSample × Sampler → Nat) (count : Counts → Nat)
    (exact : ∀ {last now result}, Counts.ShownBy last now result → last.InTime now →
      count last + reported result = count now)
    (first : Counts) (reads : List Counts) (results : List (Option LoadSample × Sampler))
    (inTime : List.IsChain Counts.InTime (first :: reads))
    (shows : List.Forall₂ (fun between result => between.1.ShownBy between.2 result)
      ((first :: reads).zip reads) results) :
    count first + (results.map reported).sum =
      count ((first :: reads).getLast (List.cons_ne_nil _ _)) := by
  induction reads generalizing first results with
  | nil =>
    cases shows
    exact Nat.add_zero _
  | cons now rest inductionHypothesis =>
    obtain ⟨next, others⟩ := List.isChain_cons_cons.mp inTime
    cases shows with
    | cons shown shows =>
      rw [List.map_cons, List.sum_cons, ← Nat.add_assoc, exact shown next,
        List.getLast_cons (List.cons_ne_nil _ _)]
      exact inductionHypothesis now _ others shows

/-- The sampler is exact over whole runs. Readings of counters that never go round are given to it
modulo the width of a word, the first of them by the state it starts from. Every step then shows the
time since the reading before, and what the steps report adds up to the time of the run: no tick is
lost or counted twice. -/
theorem windows_tile (sampler : Sampler) (first : Counts) (reads : List Counts)
    (lastTotal : sampler.lastTotal = .ofNat first.total)
    (lastIdle : sampler.lastIdle = .ofNat first.idle)
    (inTime : List.IsChain Counts.InTime (first :: reads)) :
    List.Forall₂ (fun between result => between.1.ShownBy between.2 result)
      ((first :: reads).zip reads) (sampler.updateAll (reads.map Counts.runTime)) ∧
    first.total + ((sampler.updateAll (reads.map Counts.runTime)).map reportedTotal).sum =
      ((first :: reads).getLast (List.cons_ne_nil _ _)).total ∧
    first.idle + ((sampler.updateAll (reads.map Counts.runTime)).map reportedIdle).sum =
      ((first :: reads).getLast (List.cons_ne_nil _ _)).idle := by
  have shows := sampler.updateAll_shows first reads lastTotal lastIdle inTime
  refine ⟨shows, ?_, ?_⟩
  · exact sum_of_shows reportedTotal Counts.total Counts.ShownBy.reportedTotal_eq first reads _
      inTime shows
  · exact sum_of_shows reportedIdle Counts.idle Counts.ShownBy.reportedIdle_eq first reads _
      inTime shows

/-- Both counters pass the end of a word in the first window, no time passes in the second, and the
third is almost as long as a window can be. -/
theorem windows_tile_rollover :
    ∃ results, results = updateAll ⟨.ofNat (2 ^ 32 - 100), .ofNat (2 ^ 32 - 50), 0⟩
        [⟨100, 0⟩, ⟨100, 0⟩, ⟨0, 0x80000000⟩] ∧
      (results.map reportedTotal).sum = 2 ^ 32 + 100 ∧
      (results.map reportedIdle).sum = 2 ^ 31 + 50 ∧
      results.map (fun result => LoadCode.decode result.2.averageLoad) = [75, 0, 50] := by
  let first : Counts := ⟨2 ^ 32 - 100, 2 ^ 32 - 50⟩
  let reads : List Counts :=
    [⟨2 ^ 32 + 100, 2 ^ 32⟩, ⟨2 ^ 32 + 100, 2 ^ 32⟩, ⟨2 ^ 33, 2 ^ 32 + 2 ^ 31⟩]
  have inTime : List.IsChain Counts.InTime (first :: reads) :=
    .cons_cons ⟨⟨by decide, by decide⟩, by decide⟩
      (.cons_cons ⟨⟨by decide, by decide⟩, by decide⟩
        (.cons_cons ⟨⟨by decide, by decide⟩, by decide⟩ (.singleton _)))
  obtain ⟨-, total, idle⟩ :=
    windows_tile ⟨.ofNat first.total, .ofNat first.idle, 0⟩ first reads rfl rfl inTime
  refine ⟨_, rfl, ?_, ?_, by decide⟩
  · exact Nat.add_left_cancel (total.trans (by decide : 2 ^ 33 = first.total + (2 ^ 32 + 100)))
  · exact Nat.add_left_cancel
      (idle.trans (by decide : 2 ^ 32 + 2 ^ 31 = first.idle + (2 ^ 31 + 50)))

end Sampler

end BoardSupport
