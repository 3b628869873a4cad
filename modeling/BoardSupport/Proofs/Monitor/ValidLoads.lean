/-
This file shows that a monitor never publishes anything but a valid load, whatever
its host does. The counters are read from a host that may set them as it likes:
they may run backwards, contradict each other or roll over, and the idle share that
comes out of them may be any 32-bit number. The load is what the share leaves of a
hundred, and that is a percentage for any share. A step leaves the sampler alone,
puts it back to zero, or folds a reading into it, so a valid code is all that is
ever published, and its scaling fits into the word.
-/

import BoardSupport.Proofs.Monitor.Channel
import BoardSupport.Proofs.Monitor.Starting

namespace BoardSupport.Monitor

variable {v : Vocabulary}

/-! ### One reading -/

/-- The code of any window fits into the word, whatever the sampler and the counters are. -/
theorem encode_of_window {sampler : Sampler} {reading : RunTime} {sample : LoadSample}
    (measured : sampler.window reading = some sample) :
    LoadCode.encode sample.loadPercent = .ok (LoadCode.ofPercent sample.loadPercent) :=
  LoadCode.encode_of_le (loadPercent_of_window measured)

theorem valid_update (sampler : Sampler) (reading : RunTime) :
    LoadCode.Valid (sampler.update reading).2.averageLoad := by
  rw [Sampler.update_averageLoad]
  cases measured : sampler.window reading with
  | none => exact LoadCode.valid_zero
  | some sample => exact LoadCode.valid_ofPercent (loadPercent_of_window measured)

/-! ### One step, and all of them -/

/-- A step leaves the sampler as it is, puts it back to zero or folds a reading into it. -/
theorem Machine.sampler_step (host : Host v) (machine : Machine v) :
    (machine.step host).session.monitor.sampler = machine.session.monitor.sampler ∨
      (machine.step host).session.monitor.sampler = .zero ∨
      ∃ reading, (machine.step host).session.monitor.sampler =
        (machine.session.monitor.sampler.update reading).2 := by
  by_cases publishing : ∃ byTask reading below, machine.Publishes byTask reading below
  · obtain ⟨byTask, reading, below, publishes⟩ := publishing
    exact .inr (.inr ⟨reading, (step_of_publishes host machine byTask reading below publishes).1⟩)
  · have unpublished : ∀ byTask reading below, ¬ machine.Publishes byTask reading below :=
      fun byTask reading below publishes => publishing ⟨byTask, reading, below, publishes⟩
    rcases sampler_of_unpublished (transition_step host machine) unpublished with
      same | ⟨-, -, zero⟩
    · exact .inl same
    · exact .inr (.inl zero)

theorem Machine.valid_step (host : Host v) {machine : Machine v}
    (valid : LoadCode.Valid machine.session.monitor.averageLoad) :
    LoadCode.Valid (machine.step host).session.monitor.averageLoad := by
  rw [Monitor.averageLoad] at valid ⊢
  rcases machine.sampler_step host with same | zero | ⟨reading, folded⟩
  · rw [same]
    exact valid
  · rw [zero]
    exact LoadCode.valid_zero
  · rw [folded]
    exact valid_update _ reading

/-- At every moment of a life the published code is valid. -/
theorem Reachable.valid {host : Host v} {machine : Machine v} (reachable : Reachable host machine) :
    LoadCode.Valid machine.session.monitor.averageLoad := by
  obtain ⟨state, control, path⟩ := reachable
  induction path with
  | refl => exact LoadCode.valid_zero
  | tail _ taken inductionHypothesis =>
    cases taken with
    | step => exact Machine.valid_step host inductionHypothesis
    | next => exact inductionHypothesis

/-! ### Publishing -/

/-- What the next step publishes is entered in the journal. A direct sample is handed to whoever
asked for it, as it is published. -/
theorem Machine.step_publishes_window (host : Host v) (machine : Machine v) (byTask : Bool)
    (reading : RunTime) (below : List (Frame v))
    (publishes : machine.Publishes byTask reading below) :
    (machine.step host).session.monitor.averageLoad =
        Sampler.publishedCode (machine.session.monitor.sampler.window reading) ∧
      (∃ entries, (machine.step host).session.journal =
        entries ++ .stored byTask (machine.session.monitor.sampler.window reading) ::
          machine.session.journal) ∧
      (byTask = false → (machine.step host).control =
        .deliver (.sampled (machine.session.monitor.sampler.window reading))) := by
  obtain ⟨folded, journal⟩ := step_of_publishes host machine byTask reading below publishes
  refine ⟨by rw [Monitor.averageLoad, folded, Sampler.update_averageLoad], journal, ?_⟩
  rintro rfl
  obtain ⟨session, stack, control⟩ := machine
  obtain ⟨⟨outcome, given, top⟩, -⟩ := publishes
  cases given
  cases top
  rfl

/-- Every published code is a valid load. At every moment of a life, on a host that may do anything
between two steps of the monitor and may set the counters as it likes, the code that readers see
stands for a percentage up to a hundred: it is the code of full load, or it fits into 24 bits and
its two halves are equal. The scaling of a load fits into 32 bits whenever a sample is completed,
also of one that is then dropped. A sample that is published stands in the journal, and goes to
whoever asked for it, with the very load that its code is read back as. -/
theorem published_loads_valid (host : Host v) (machine : Machine v)
    (reachable : Reachable host machine) :
    (∃ percent, percent ≤ Settings.fullLoad ∧
      LoadCode.encode percent = .ok machine.session.monitor.averageLoad) ∧
    (machine.session.monitor.averageLoad = 0x1001000 ∨
      LoadCode.Doubled machine.session.monitor.averageLoad) ∧
    (∀ byTask reading below sample, machine.Resumes (.sampling byTask reading) below →
      machine.session.monitor.sampler.window reading = some sample →
      LoadCode.fullFraction.toNat * sample.loadPercent.toNat < UInt32.size) ∧
    ∀ byTask reading below, machine.Publishes byTask reading below →
      ∃ sample entries,
        (machine.step host).session.journal =
          entries ++ .stored byTask sample :: machine.session.journal ∧
        (byTask = false → (machine.step host).control = .deliver (.sampled sample)) ∧
        ∀ figures, sample = some figures →
          LoadCode.encode figures.loadPercent =
              .ok (machine.step host).session.monitor.averageLoad ∧
            figures.loadPercent =
              LoadCode.decode (machine.step host).session.monitor.averageLoad := by
  refine ⟨reachable.valid, reachable.valid.full_or_doubled, ?_, ?_⟩
  · intro byTask reading below sample _ measured
    exact LoadCode.fits_of_encode (encode_of_window measured)
  · intro byTask reading below publishes
    obtain ⟨published, ⟨entries, journal⟩, handed⟩ :=
      machine.step_publishes_window host byTask reading below publishes
    refine ⟨_, entries, journal, handed, fun figures measured => ?_⟩
    rw [published, measured]
    have bounded := loadPercent_of_window measured
    exact ⟨encode_of_window measured,
      (LoadCode.decode_ofPercent (UInt32.le_iff_toNat_le.mp bounded)).symm⟩

namespace Rehearsal

/-- A sample at counters that then run backwards: before it is published another one is taken, at
less run time and with no time idle at all. -/
def backwards : Machine vocabulary :=
  Machine.run host 7
    ⟨.fresh { Scheduler.fresh with
        counters := ⟨1000, 42949673⟩
        onRead := [.setCounters ⟨999, 0⟩, .call .sample] }, [], .call .sample⟩

end Rehearsal

/-- The inner sample has published full load. The window of the outer one is a single tick, of which
millions are idle; their share is a multiple of 2 ^ 32 plus four percent, and is published as 96. -/
theorem published_loads_valid_backwards :
    Reachable Rehearsal.host Rehearsal.backwards ∧
      Rehearsal.backwards.session.monitor.averageLoad = 0x1001000 ∧
      Rehearsal.backwards.Publishes false ⟨1000, 42949673⟩ [] ∧
      LoadCode.decode
        (Rehearsal.backwards.step Rehearsal.host).session.monitor.averageLoad = 96 := by
  have reachable : Reachable Rehearsal.host Rehearsal.backwards :=
    (Reachable.fresh Rehearsal.host _ _).run 7
  have publishes : Rehearsal.backwards.Publishes false ⟨1000, 42949673⟩ [] :=
    ⟨⟨_, rfl, rfl⟩, nofun⟩
  obtain ⟨-, -, -, published⟩ :=
    published_loads_valid Rehearsal.host Rehearsal.backwards reachable
  obtain ⟨sample, entries, -, handed, codes⟩ := published _ _ _ publishes
  have measured : sample = some ⟨1, 42949673, 4, 96⟩ :=
    (Outcome.sampled.inj (Control.deliver.inj (handed rfl))).symm
  exact ⟨reachable, rfl, publishes, (codes _ measured).2.symm⟩

end BoardSupport.Monitor
