/-
This file accounts for the run time of the board. An account goes along with a run
and counts, without bound, the ticks since the board was switched on and those of
them that came while a delay waited. The two words of the clock show these counts
modulo `2 ^ 32`, and the sampler, which sees nothing but the words, still finds the
true figures of every window that is shorter than a counter is wide.
-/

import BoardSupport.Proofs.Board.Ticking
import BoardSupport.Proofs.Load.Window
import BoardSupport.Proofs.Monitor.Publishing

namespace BoardSupport.Board

open Monitor (Control Event Host Machine Outcome Plan Session Transition)

/-! ### Accounts -/

/-- A configuration of the board with an account of its run. -/
structure Account where
  machine : Machine vocabulary
  /-- The ticks since the board was switched on, and those of them that came while a delay
  waited. -/
  counts : Counts
  /-- The counts when the counters were read last. -/
  lastRead : Counts

/-- Whether the next step reads the counters for a sample. -/
def readsCounters (machine : Machine vocabulary) : Bool :=
  match machine.control, machine.stack with
  | .call .sample, _ => true
  | .deliver _, .delaying :: _ => machine.session.monitor.shouldRun
  | _, _ => false

namespace Account

def hardware (account : Account) : Hardware := account.machine.session.state

/-- So many of some ticks count as idle: all if a delay waits, and none otherwise. -/
def idleShare (machine : Machine vocabulary) (delivered : Nat) : Nat :=
  if 0 < delays machine.stack then delivered else 0

/-- One step. No step both ends a delay and delivers ticks, so its ticks are idle if a delay waits
after it. -/
def step (account : Account) : Account :=
  let machine := account.machine.step host
  let delivered := deliveredTicks account.machine machine
  { machine
    counts :=
      ⟨account.counts.total + delivered, account.counts.idle + idleShare machine delivered⟩
    lastRead := if readsCounters account.machine then account.counts else account.lastRead }

/-- A tick between two steps. -/
def interrupt (account : Account) : Account :=
  { account with
    machine :=
      { account.machine with
        session :=
          { account.machine.session with
            state := { account.hardware with clock := account.hardware.clock.tick } } }
    counts := ⟨account.counts.total + 1, account.counts.idle + idleShare account.machine 1⟩ }

/-- How the run of a board goes on: by a step, which must not set the counters by hand, nor begin a
delay while another one waits; by a tick at any time; and by the next operation when none is in
progress, before which anything but the clock may have changed. -/
inductive Move (account : Account) : Account → Prop
  | step (unset : setsCounters account.machine = false)
      (unnested : beginsDelay account.machine = true → delays account.machine.stack = 0) :
    Move account account.step
  | interrupt : Move account account.interrupt
  | next (outcome : Outcome Value) (hardware : Hardware) (control : Control vocabulary)
      (given : account.machine.control = .deliver outcome) (empty : account.machine.stack = [])
      (clock : hardware.clock = account.hardware.clock) :
    Move account
      { account with machine := ⟨{ account.machine.session with state := hardware }, [], control⟩ }

def Moves : Account → Account → Prop := Relation.ReflTransGen Move

/-- The accounts of all runs from the moment the board is switched on. -/
def OfRun (account : Account) : Prop :=
  ∃ hardware control, hardware.clock = .zero ∧
    Moves ⟨⟨.fresh hardware, [], control⟩, ⟨0, 0⟩, ⟨0, 0⟩⟩ account

end Account

/-! ### Readings in progress -/

def isSample : Monitor.Frame vocabulary → Bool
  | .sampling _ _ => true
  | _ => false

def delivers : Control vocabulary → Bool
  | .deliver _ => true
  | _ => false

def Unread (stack : List (Monitor.Frame vocabulary)) : Prop :=
  ∀ frame ∈ stack, isSample frame = false

/-- A sample in progress has this reading of the counters, and is the next to go on: on the board
nothing but ticks can come between reading the counters and using them. -/
def ReadingIs (reading : RunTime) (machine : Machine vocabulary) : Prop :=
  Unread machine.stack ∨
    ∃ byTask below, machine.Resumes (.sampling byTask reading) below ∧ Unread below

theorem unread_nil : Unread [] := fun _ member => absurd member List.not_mem_nil

theorem unread_cons {frame : Monitor.Frame vocabulary} {stack : List (Monitor.Frame vocabulary)} :
    Unread (frame :: stack) ↔ isSample frame = false ∧ Unread stack :=
  List.forall_mem_cons

theorem unread_follow {machine : Machine vocabulary} (plan : Plan vocabulary)
    (unread : Unread machine.stack) : Unread (machine.follow plan).stack := by
  intro frame member
  rcases List.mem_append.mp member with member | member
  · obtain ⟨work, -, same⟩ := List.mem_map.mp member
    rw [← same]
    rfl
  · exact unread frame member

theorem ReadingIs.unread {reading : RunTime} {machine : Machine vocabulary}
    (readingIs : ReadingIs reading machine) (busy : delivers machine.control = false) :
    Unread machine.stack := by
  rcases readingIs with unread | ⟨byTask, below, ⟨outcome, given, -⟩, -⟩
  · exact unread
  · rw [given] at busy
    cases busy

theorem ReadingIs.unread_below {reading : RunTime} {machine : Machine vocabulary}
    (readingIs : ReadingIs reading machine) {frame : Monitor.Frame vocabulary}
    {below : List (Monitor.Frame vocabulary)} (top : machine.stack = frame :: below) :
    Unread below := by
  rcases readingIs with unread | ⟨byTask, rest, ⟨outcome, -, same⟩, unread⟩
  · rw [top] at unread
    exact (unread_cons.mp unread).2
  · rw [top] at same
    cases same
    exact unread

/-- A step that reads the counters leaves that reading in progress, and any other step none. -/
theorem readingIs_of_transition {reading : RunTime} {machine next : Machine vocabulary}
    (taken : Transition host machine next) (readingIs : ReadingIs reading machine) :
    ReadingIs (if readsCounters machine then machine.session.state.clock.runTime else reading)
      next := by
  cases taken with
  | rest ended =>
    left
    obtain ⟨session, stack, control⟩ := machine
    cases control with
    | deliver outcome =>
      cases stack with
      | nil => exact unread_nil
      | cons frame rest => exact absurd rfl ended
    | _ => exact readingIs.unread rfl
  | switch on outcome asked =>
    obtain ⟨call, called⟩ := Machine.call_of_switching asked
    exact .inl (readingIs.unread (by rw [called]; rfl))
  | answer call outcome asked | decline asked =>
    exact .inl (readingIs.unread (by rw [asked]; rfl))
  | enter asked =>
    have unread : Unread machine.stack := readingIs.unread (by rw [asked]; rfl)
    exact .inl (unread_follow _ (unread_cons.mpr ⟨rfl, unread⟩))
  | measure asked =>
    have reads : readsCounters machine = true := by rw [readsCounters, asked]
    rw [reads]
    exact .inr ⟨false, machine.stack, ⟨.done, rfl, rfl⟩, readingIs.unread (by rw [asked]; rfl)⟩
  | wake rest outcome given top wanted =>
    have reads : readsCounters machine = true := by rw [readsCounters, given, top]; exact wanted
    rw [reads]
    exact .inr ⟨true, rest, ⟨.done, rfl, rfl⟩, readingIs.unread_below top⟩
  | leave frame rest outcome given top => exact .inl (readingIs.unread_below top)
  | publish reading rest outcome given top =>
    exact .inl (unread_follow _ (unread_cons.mpr ⟨rfl, readingIs.unread_below top⟩))
  | conclude reading rest outcome given top => exact .inl (readingIs.unread_below top)
  | perform operation asked =>
    exact .inl (unread_follow _ (readingIs.unread (by rw [asked]; rfl)))
  | resume frame rest outcome given top =>
    exact .inl (unread_follow _ (readingIs.unread_below top))

/-! ### The counters of the board are exact -/

namespace Account

/-- The clock shows both counts modulo the width of its counters, and is idle exactly if a delay
waits; and a sample in progress has the counts of the last reading. -/
structure Exact (account : Account) : Prop where
  counters : account.hardware.clock.runTime = account.counts.runTime
  sinceStart : (⟨0, 0⟩ : Counts).Precedes account.counts
  sinceRead : account.lastRead.Precedes account.counts
  balanced : Balanced account.machine
  reading : ReadingIs account.lastRead.runTime account.machine

theorem idleShare_of_balanced {machine : Machine vocabulary} (balanced : Balanced machine)
    (delivered : Nat) :
    idleShare machine delivered = if machine.session.state.clock.idle then delivered else 0 := by
  rw [idleShare, balanced]
  cases machine.session.state.clock.idle <;> rfl

theorem idleShare_le (machine : Machine vocabulary) (delivered : Nat) :
    idleShare machine delivered ≤ delivered := by
  unfold idleShare
  split
  · exact Nat.le_refl _
  · exact Nat.zero_le _

theorem counters_of_passes {before after : Clock} {counts : Counts} {delivered share : Nat}
    (passes : before.Passes delivered after) (counters : before.runTime = counts.runTime)
    (idle : share = if after.idle then delivered else 0) :
    after.runTime = Counts.runTime ⟨counts.total + delivered, counts.idle + share⟩ := by
  have total : before.ticks = .ofNat counts.total := congrArg RunTime.total counters
  have idleTicks : before.idleTicks = .ofNat counts.idle := congrArg RunTime.idle counters
  rw [Clock.runTime, Counts.runTime, UInt32.ofNat_add, UInt32.ofNat_add, ← total, ← idleTicks, idle,
    passes.ticks, passes.idleTicks]

theorem Exact.step {account : Account} (holds : account.Exact)
    (unset : setsCounters account.machine = false)
    (unnested : beginsDelay account.machine = true → delays account.machine.stack = 0) :
    account.step.Exact := by
  have taken := Machine.transition_step host account.machine
  have kept := clockKept_of_transition taken holds.balanced unset unnested
  have later : account.counts.Precedes account.step.counts :=
    account.counts.precedes_add (idleShare_le _ _)
  refine ⟨?_, holds.sinceStart.trans later, ?_, kept.balanced, ?_⟩
  · exact counters_of_passes kept.passes holds.counters (idleShare_of_balanced kept.balanced _)
  · show Counts.Precedes (if readsCounters account.machine then _ else _) _
    split
    · exact later
    · exact holds.sinceRead.trans later
  · have reading := readingIs_of_transition taken holds.reading
    show ReadingIs (Counts.runTime (if readsCounters account.machine then _ else _)) _
    cases reads : readsCounters account.machine with
    | true =>
      rw [reads] at reading
      exact holds.counters ▸ reading
    | false =>
      rw [reads] at reading
      exact reading

theorem Exact.interrupt {account : Account} (holds : account.Exact) : account.interrupt.Exact := by
  have balanced : Balanced account.interrupt.machine := holds.balanced
  have later : account.counts.Precedes account.interrupt.counts :=
    account.counts.precedes_add (idleShare_le _ _)
  refine ⟨?_, holds.sinceStart.trans later, holds.sinceRead.trans later, balanced, holds.reading⟩
  exact counters_of_passes (Clock.passes_tick account.hardware.clock) holds.counters
    (idleShare_of_balanced balanced 1)

theorem Exact.move {account later : Account} (holds : account.Exact) (taken : account.Move later) :
    later.Exact := by
  cases taken with
  | step unset unnested => exact holds.step unset unnested
  | interrupt => exact holds.interrupt
  | next outcome hardware control given empty clock =>
    have balanced : delays [] = if hardware.clock.idle then 1 else 0 := by
      rw [clock, ← empty]
      exact holds.balanced
    have counters : hardware.clock.runTime = account.counts.runTime := by
      rw [clock]
      exact holds.counters
    exact ⟨counters, holds.sinceStart, holds.sinceRead, balanced,
      .inl unread_nil⟩

/-- Every account of a run is exact. -/
theorem OfRun.exact {account : Account} (run : account.OfRun) : account.Exact := by
  obtain ⟨hardware, control, clock, path⟩ := run
  induction path with
  | refl =>
    refine ⟨?_, .refl _, .refl _, ?_, .inl unread_nil⟩
    · exact congrArg Clock.runTime clock
    · show 0 = if hardware.clock.idle then 1 else 0
      rw [clock]
      rfl
  | tail _ taken inductionHypothesis => exact inductionHypothesis.move taken

/-! ### The figures of a window -/

/-- What one move does to an exact account. -/
structure Advances (account later : Account) : Prop where
  exact : later.Exact
  read : account.lastRead.Precedes later.lastRead
  grown : Session.Grown (fun _ => True) account.machine.session later.machine.session

theorem Exact.advances {account later : Account} (holds : account.Exact)
    (taken : account.Move later) : account.Advances later where
  exact := holds.move taken
  read := by
    cases taken with
    | step =>
      show account.lastRead.Precedes (if readsCounters account.machine then _ else _)
      split
      · exact holds.sinceRead
      · exact .refl _
    | _ => exact .refl _
  grown := by
    cases taken with
    | step =>
      exact (Machine.grown_of_transition (Machine.transition_step host account.machine)).mono
        fun _ _ => trivial
    | _ => exact ⟨[], rfl, nofun, fun _ => rfl⟩

theorem Exact.advances_moves {account later : Account} (holds : account.Exact)
    (path : account.Moves later) : account.Advances later := by
  induction path with
  | refl => exact ⟨holds, .refl _, .refl _ _⟩
  | tail _ taken inductionHypothesis =>
    obtain ⟨middle, read, grown⟩ := inductionHypothesis
    have last := middle.advances taken
    exact ⟨last.exact, read.trans last.read, grown.trans last.grown⟩

/-- A load that is about to be published has the counts of the last reading. -/
theorem Exact.reading_eq {account : Account} (holds : account.Exact) {byTask : Bool}
    {reading : RunTime} {below : List (Monitor.Frame vocabulary)}
    (publishes : account.machine.Publishes byTask reading below) :
    reading = account.lastRead.runTime := by
  obtain ⟨⟨outcome, given, top⟩, -⟩ := publishes
  rcases holds.reading with unread | ⟨_, _, ⟨_, -, same⟩, -⟩
  · rw [top] at unread
    cases (unread_cons.mp unread).1
  · rw [top] at same
    cases same
    rfl

end Account

/-- The board accounts for its run time exactly. At every moment of every run, its two counters show
the ticks since it was switched on and those that came while a delay waited, modulo `2 ^ 32`; no
more ticks were idle than came at all; and the board is idle exactly while a delay waits.

Hence, of two loads that are published one after the other, without a start in between, the second
has the true figures of the time between the two readings, if that is any time at all and less than
a counter is wide. -/
theorem run_time_exact (account : Account) (run : account.OfRun) :
    (account.hardware.clock.ticks.toNat = account.counts.total % 2 ^ 32 ∧
      account.hardware.clock.idleTicks.toNat = account.counts.idle % 2 ^ 32 ∧
      account.counts.idle ≤ account.counts.total ∧
      (account.hardware.clock.idle = true ↔ 0 < delays account.machine.stack)) ∧
    ∀ later byTask nextByTask reading nextReading below nextBelow entries,
      account.machine.Publishes byTask reading below → account.Move account.step →
      account.step.Moves later → later.machine.Publishes nextByTask nextReading nextBelow →
      later.machine.session.journal = entries ++ account.step.machine.session.journal →
      (∀ event ∈ entries, event.ofSampler = false) →
      account.lastRead.total < later.lastRead.total →
      later.lastRead.total < account.lastRead.total + 2 ^ 32 →
      ∃ sample more,
        later.step.machine.session.journal =
          more ++ .stored nextByTask (some sample) :: later.machine.session.journal ∧
        sample.Measures account.lastRead later.lastRead := by
  have holds := run.exact
  constructor
  · have total : account.hardware.clock.ticks = .ofNat account.counts.total :=
      congrArg RunTime.total holds.counters
    have idle : account.hardware.clock.idleTicks = .ofNat account.counts.idle :=
      congrArg RunTime.idle holds.counters
    refine ⟨by rw [total, UInt32.toNat_ofNat'], by rw [idle, UInt32.toNat_ofNat'], ?_, ?_⟩
    · exact holds.sinceStart.within
    · rw [holds.balanced]
      show account.hardware.clock.idle = true ↔
        0 < if account.hardware.clock.idle = true then 1 else 0
      cases account.hardware.clock.idle <;> decide
  · intro later byTask nextByTask reading nextReading below nextBelow entries publishes stepped path
      nextPublishes journal silent passed near
    have first := holds.advances stepped
    have rest := first.exact.advances_moves path
    have kept := rest.grown.sampler_eq entries journal silent
    obtain ⟨stored, -⟩ :=
      Machine.step_of_publishes host account.machine byTask reading below publishes
    obtain ⟨-, more, nextJournal⟩ :=
      Machine.step_of_publishes host later.machine nextByTask nextReading nextBelow nextPublishes
    have sampler : later.machine.session.monitor.sampler =
        (account.machine.session.monitor.sampler.update account.lastRead.runTime).2 := by
      rw [kept, ← holds.reading_eq publishes]
      exact stored
    obtain ⟨sample, window, measures⟩ :=
      later.machine.session.monitor.sampler.window_measures account.lastRead later.lastRead
        (by rw [sampler]; rfl) (by rw [sampler]; rfl) (first.read.trans rest.read) passed near
    rw [rest.exact.reading_eq nextPublishes, window] at nextJournal
    exact ⟨sample, more, nextJournal, measures⟩

/-! ### A job with two samples -/

namespace Account

/-- The account of some steps of a job on a fresh board: it takes a sample, delays for two
milliseconds, lets one more tick pass and takes another sample. -/
def ofJob (steps : Nat) : Account :=
  steps.repeat step
    { machine :=
        ⟨.fresh { Hardware.switchedOn 0 0 with
            slot := ⟨some (1, .body 0 [.call .sample, .delay 2, .tick 1, .call .sample]), 1⟩
            sleepLimit := 2 },
          [], .perform .runTask⟩
      counts := ⟨0, 0⟩
      lastRead := ⟨0, 0⟩ }

theorem move_ofJob (steps : Nat) (within : steps < 13) :
    (ofJob steps).Move (ofJob (steps + 1)) := by
  have lawful : ∀ steps < 13, setsCounters (ofJob steps).machine = false ∧
      (beginsDelay (ofJob steps).machine = true → delays (ofJob steps).machine.stack = 0) := by
    decide
  exact .step (lawful steps within).1 (lawful steps within).2

theorem moves_ofJob (first count : Nat) (within : first + count ≤ 13) :
    (ofJob first).Moves (ofJob (first + count)) := by
  induction count with
  | zero => exact .refl
  | succ count inductionHypothesis =>
    exact (inductionHypothesis (Nat.le_of_succ_le within)).tail (move_ofJob _ within)

theorem ofRun_ofJob : (ofJob 3).OfRun := ⟨_, _, rfl, moves_ofJob 0 3 (by decide)⟩

end Account

/-- The second sample of the job sees three ticks, two of them idle. -/
theorem run_time_exact_ofJob :
    ∃ sample more,
      (Account.ofJob 13).step.machine.session.journal =
        more ++ .stored false (some sample) :: (Account.ofJob 13).machine.session.journal ∧
      sample.Measures ⟨0, 0⟩ ⟨3, 2⟩ :=
  (run_time_exact (Account.ofJob 3) Account.ofRun_ofJob).2 (Account.ofJob 13) false false ⟨0, 0⟩
    ⟨3, 2⟩ (Account.ofJob 3).machine.stack.tail (Account.ofJob 13).machine.stack.tail
    ((Account.ofJob 13).machine.session.journal.take 5) ⟨⟨.done, rfl, rfl⟩, nofun⟩
    (Account.move_ofJob 3 (by decide)) (Account.moves_ofJob 4 9 (by decide))
    ⟨⟨.done, rfl, rfl⟩, nofun⟩ rfl (by decide) (by decide) (by decide)

end BoardSupport.Board
