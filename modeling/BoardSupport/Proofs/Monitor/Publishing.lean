/-
This file tells from the journal what becomes of the sampler. A step that publishes
a load says so and leaves the reading of that load in the sampler, and as long as
no entry tells of a load or of a start the sampler stays as it is. Between two
loads that follow one another the sampler therefore carries the reading of the
first over to the second.
-/

import BoardSupport.Proofs.Monitor.Transition

namespace BoardSupport.Monitor

variable {v : Vocabulary}

/-- A sampler whose session has grown without an entry about it is as it was. -/
theorem Session.Grown.sampler_eq {condition : Event v → Prop} {before after : Session v}
    (grown : Grown condition before after) (entries : List (Event v))
    (journal : after.journal = entries ++ before.journal)
    (silent : ∀ event ∈ entries, event.ofSampler = false) :
    after.monitor.sampler = before.monitor.sampler := by
  obtain ⟨grownEntries, grownJournal, -, sampler⟩ := grown
  have same : grownEntries = entries :=
    List.append_cancel_right (grownJournal.symm.trans journal)
  exact sampler (by rw [same]; exact silent)

namespace Machine

/-- The next step publishes a load. -/
def Publishes (byTask : Bool) (reading : RunTime) (below : List (Frame v)) (machine : Machine v) :
    Prop :=
  machine.Resumes (.sampling byTask reading) below ∧
    (byTask = true → machine.session.monitor.shouldRun = true)

/-- A load is published as a window of the sampler, and its reading stays in the sampler. -/
theorem step_of_publishes (host : Host v) (machine : Machine v) (byTask : Bool) (reading : RunTime)
    (below : List (Frame v)) (publishes : machine.Publishes byTask reading below) :
    (machine.step host).session.monitor.sampler =
        (machine.session.monitor.sampler.update reading).2 ∧
      ∃ entries, (machine.step host).session.journal =
        entries ++ .stored byTask (machine.session.monitor.sampler.window reading) ::
          machine.session.journal := by
  obtain ⟨resumes, wanted⟩ := publishes
  cases byTask with
  | true =>
    rw [step_of_reading_on host machine reading below (wanted rfl) resumes]
    let published := ({ machine with stack := below }.store true reading).2
    have grown : Session.Grown (fun _ => True) published.session
        (published.beginDelay host).session :=
      grown_beginDelay host published trivial fun _ => trivial
    obtain ⟨entries, journal, -⟩ := grown
    exact ⟨rfl, entries, journal⟩
  | false =>
    obtain ⟨session, stack, control⟩ := machine
    obtain ⟨outcome, given, top⟩ := resumes
    cases given
    cases top
    exact ⟨rfl, [], rfl⟩

end Machine

end BoardSupport.Monitor
