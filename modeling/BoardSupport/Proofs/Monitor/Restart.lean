/-
This file proves what becomes of a body of the sampling task whose handle is given
back while it is in progress. Giving back a handle waits for nobody: the body is
to end when it next looks at the flag of the monitor. The flag says whether the
monitor is on, and not for which task, so a body that first looks after a restart
finds the flag up and works on, side by side with the task of the new session.
`reaped_task_works_iff_restarted` says that this is exactly when it happens, and
follows every load that the task publishes back to the beginning of the body that
took it, through a whole pause of that body.
-/

import BoardSupport.Proofs.Monitor.Stopping

namespace BoardSupport.Monitor

variable {v : Vocabulary}

namespace Machine

/-! ### A body in progress -/

/-- A body of the task is in progress above some frames. -/
def InBody (below : List (Frame v)) (machine : Machine v) : Prop :=
  ∃ frame : Frame v, frame.ofTask = true ∧ frame :: below <:+ machine.stack

/-- Moves all of which lead to configurations of some kind. While such a kind says that a body is in
progress, it is one and the same body, since between two bodies the frames below them lie free. -/
def Along (host : Host v) (kind : Machine v → Prop) : Machine v → Machine v → Prop :=
  Relation.ReflTransGen fun before after => Move host before after ∧ kind after

theorem Along.moves {host : Host v} {kind : Machine v → Prop} {machine later : Machine v}
    (along : machine.Along host kind later) :
    Relation.ReflTransGen (Move host) machine later :=
  Relation.ReflTransGen.mono (fun _ _ taken => taken.1) _ _ along

theorem Along.mono {host : Host v} {kind wider : Machine v → Prop} {machine later : Machine v}
    (along : machine.Along host kind later) (widen : ∀ other, kind other → wider other) :
    machine.Along host wider later :=
  Relation.ReflTransGen.mono (fun _ _ taken => ⟨taken.1, widen _ taken.2⟩) _ _ along

def BeginsBody (below : List (Frame v)) (machine : Machine v) : Prop :=
  machine.control = .call .runTask ∧ machine.stack = below ∧
    machine.session.monitor.shouldRun = true

/-- A body begins a pause, as the first thing it does or after publishing a load. -/
def BeginsPause (below : List (Frame v)) (machine : Machine v) : Prop :=
  machine.BeginsBody below ∨
    ∃ reading, machine.Resumes (.sampling true reading) below ∧
      machine.session.monitor.shouldRun = true

/-- A body comes out of its pause and reads the counters. -/
def Wakes (host : Host v) (reading : RunTime) (below : List (Frame v)) (machine : Machine v) :
    Prop :=
  machine.Resumes .delaying below ∧ machine.session.monitor.shouldRun = true ∧
    reading = host.runTime machine.session.state

/-! ### What a body does when it has the say -/

/-- A body that has the say goes on exactly when the monitor is on. -/
theorem inBody_step_iff (host : Host v) (machine : Machine v) (frame : Frame v)
    (below : List (Frame v)) (task : frame.ofTask = true) (resumes : machine.Resumes frame below) :
    (machine.step host).InBody below ↔ machine.session.monitor.shouldRun = true := by
  constructor
  · rintro ⟨other, -, held⟩
    cases wanted : machine.session.monitor.shouldRun with
    | true => rfl
    | false =>
      rw [step_of_body_off host machine frame below wanted task resumes] at held
      exact absurd held.length_le (Nat.not_succ_le_self below.length)
  · intro wanted
    cases frame with
    | delaying =>
      rw [step_of_pause_on host machine below wanted resumes]
      exact ⟨.sampling true _, rfl, List.suffix_append _ _⟩
    | sampling byTask reading =>
      cases task
      rw [step_of_reading_on host machine reading below wanted resumes]
      exact ⟨.delaying, rfl, List.suffix_append _ _⟩
    | host frame => cases task

/-! ### Where a frame of the task comes from -/

/-- Frames of the host do not hide a frame of the task. -/
theorem suffix_of_suffix_host {frame : Frame v} {below stack : List (Frame v)}
    (frames : List v.Frame) (task : frame.ofTask = true)
    (held : frame :: below <:+ frames.map .host ++ stack) : frame :: below <:+ stack := by
  induction frames with
  | nil => exact held
  | cons first rest inductionHypothesis =>
    rcases List.suffix_cons_iff.mp held with same | held
    · cases same
      cases task
    · exact inductionHypothesis held

/-- A frame that is found on a stack after a new frame of the task was put there is that one, or it
was there before. -/
theorem eq_or_suffix_of_pushed {frame pushed : Frame v} {below stack : List (Frame v)}
    (frames : List v.Frame) (task : frame.ofTask = true)
    (held : frame :: below <:+ frames.map .host ++ pushed :: stack) :
    (frame = pushed ∧ below = stack) ∨ frame :: below <:+ stack := by
  rcases List.suffix_cons_iff.mp (suffix_of_suffix_host frames task held) with same | held
  · cases same
    exact .inl ⟨rfl, rfl⟩
  · exact .inr held

/-- A frame of the task that is found after a step was there before, or the step has made it: at the
begin of a pause, or when the body came out of one. -/
theorem held_of_transition {host : Host v} {machine next : Machine v} {frame : Frame v}
    {below : List (Frame v)} (taken : Transition host machine next) (task : frame.ofTask = true)
    (held : frame :: below <:+ next.stack) :
    frame :: below <:+ machine.stack ∨ (frame = .delaying ∧ machine.BeginsPause below) ∨
      ∃ reading, frame = .sampling true reading ∧ machine.Wakes host reading below := by
  cases taken with
  | rest | switch | answer | decline => exact .inl held
  | enter asked wanted =>
    rcases eq_or_suffix_of_pushed _ task held with ⟨rfl, rfl⟩ | held
    · exact .inr (.inl ⟨rfl, .inl ⟨asked, rfl, wanted⟩⟩)
    · exact .inl held
  | measure asked =>
    rcases eq_or_suffix_of_pushed _ task held with ⟨rfl, -⟩ | held
    · cases task
    · exact .inl held
  | wake rest outcome given top wanted =>
    rw [top]
    rcases eq_or_suffix_of_pushed _ task held with ⟨rfl, rfl⟩ | held
    · exact .inr (.inr ⟨_, rfl, ⟨outcome, given, top⟩, wanted, rfl⟩)
    · exact .inl (held.trans (List.suffix_cons _ _))
  | leave frame rest outcome given top | conclude reading rest outcome given top =>
    rw [top]
    exact .inl (List.IsSuffix.trans held (List.suffix_cons _ _))
  | publish reading rest outcome given top wanted =>
    rw [top]
    rcases eq_or_suffix_of_pushed _ task held with ⟨rfl, rfl⟩ | held
    · exact .inr (.inl ⟨rfl, .inr ⟨reading, ⟨outcome, given, top⟩, wanted⟩⟩)
    · exact .inl (held.trans (List.suffix_cons _ _))
  | perform operation asked => exact .inl (suffix_of_suffix_host _ task held)
  | resume hostFrame rest outcome given top =>
    rw [top]
    exact .inl ((suffix_of_suffix_host _ task held).trans (List.suffix_cons _ _))

/-- How a body that is in a pause got there. -/
structure Paused (host : Host v) (below : List (Frame v)) (begun pausing machine : Machine v) :
    Prop where
  reachable : Reachable host begun
  begins : begun.BeginsBody below
  body : begun.Along host (InBody below) pausing
  pauses : pausing.BeginsPause below
  pause : pausing.Along host (fun other => .delaying :: below <:+ other.stack) machine

/-- How a body that has read the counters got there. -/
structure HasRead (host : Host v) (reading : RunTime) (below : List (Frame v))
    (begun pausing woken machine : Machine v) : Prop where
  paused : Paused host below begun pausing woken
  wakes : woken.Wakes host reading below
  read : woken.Along host (fun other => .sampling true reading :: below <:+ other.stack) machine

theorem HasRead.along {host : Host v} {reading : RunTime} {below : List (Frame v)}
    {begun pausing woken machine : Machine v}
    (hasRead : HasRead host reading below begun pausing woken machine) :
    begun.Along host (InBody below) machine :=
  (hasRead.paused.body.trans
    (hasRead.paused.pause.mono fun _ held => ⟨.delaying, rfl, held⟩)).trans
    (hasRead.read.mono fun _ held => ⟨.sampling true reading, rfl, held⟩)

/-- Every body that is in progress was begun, and is in a pause that it began itself or has read the
counters after such a pause. -/
theorem begun_of_reachable {host : Host v} {machine : Machine v}
    (reachable : Reachable host machine) (below : List (Frame v)) :
    (.delaying :: below <:+ machine.stack →
      ∃ begun pausing, Paused host below begun pausing machine) ∧
    ∀ reading, .sampling true reading :: below <:+ machine.stack →
      ∃ begun pausing woken, HasRead host reading below begun pausing woken machine := by
  obtain ⟨state, control, path⟩ := reachable
  -- A body changes its frame when it reads the counters and when it begins its next pause, so both
  -- kinds of frames go through one induction on the run.
  induction path with
  | refl =>
    exact ⟨fun held => (nomatch List.suffix_nil.mp held),
      fun _ held => (nomatch List.suffix_nil.mp held)⟩
  | @tail middle next before taken inductionHypothesis =>
    cases taken with
    | next =>
      exact ⟨fun held => (nomatch List.suffix_nil.mp held),
        fun _ held => (nomatch List.suffix_nil.mp held)⟩
    | step =>
      have rule := transition_step host middle
      refine ⟨fun held => ?_, fun reading held => ?_⟩
      · rcases held_of_transition rule rfl held with earlier | ⟨-, pauses⟩ | ⟨_, same, -⟩
        · obtain ⟨begun, pausing, paused⟩ := inductionHypothesis.1 earlier
          exact ⟨begun, pausing, { paused with pause := paused.pause.tail ⟨.step, held⟩ }⟩
        · rcases pauses with begins | ⟨reading, resumes, wanted⟩
          · exact ⟨middle, middle, ⟨state, control, before⟩, begins, .refl, .inl begins,
              .single ⟨.step, held⟩⟩
          · obtain ⟨begun, pausing, woken, hasRead⟩ :=
              inductionHypothesis.2 reading resumes.suffix
            exact ⟨begun, middle, hasRead.paused.reachable, hasRead.paused.begins, hasRead.along,
              .inr ⟨reading, resumes, wanted⟩, .single ⟨.step, held⟩⟩
        · cases same
      · rcases held_of_transition rule rfl held with earlier | ⟨same, -⟩ | ⟨_, same, wakes⟩
        · obtain ⟨begun, pausing, woken, hasRead⟩ := inductionHypothesis.2 reading earlier
          exact ⟨begun, pausing, woken, { hasRead with read := hasRead.read.tail ⟨.step, held⟩ }⟩
        · cases same
        · cases same
          obtain ⟨begun, pausing, paused⟩ := inductionHypothesis.1 wakes.1.suffix
          exact ⟨begun, pausing, middle, paused, wakes, .single ⟨.step, held⟩⟩

/-! ### The exact condition -/

/-- What a body whose task is given back does later, when it has the say: `calls` are the calls that
switching has made since, and `life` is the state to which they lead. -/
structure LooksAfterReap (host : Host v) (frame : Frame v) (below : List (Frame v))
    (calls : List (LifeCall v.Handle)) (life : Life v.Handle) (machine : Machine v) : Prop where
  follows : Life.Follows .off calls life
  lives : machine.session.monitor.Lives life
  /-- It goes on exactly if the monitor has been started again. -/
  goesOn_iff : (machine.step host).InBody below ↔ ∃ handle, life = .on handle
  ends : life = .off →
    machine.step host = { machine with stack := below, control := .deliver .done }
  /-- After a restart a body that comes out of its pause reads the counters. -/
  reads : ∀ handle, life = .on handle → frame = .delaying →
    machine.step host = { machine with stack := below }.beginSample host true
  /-- After a restart a body that has read the counters publishes a load and begins a pause. -/
  publishes : ∀ handle reading, life = .on handle → frame = .sampling true reading →
    machine.step host = ({ machine with stack := below }.store true reading).2.beginDelay host

theorem looksAfterReap_of_lives {host : Host v} {frame : Frame v} {below : List (Frame v)}
    {calls : List (LifeCall v.Handle)} {life : Life v.Handle} {machine : Machine v}
    (follows : Life.Follows .off calls life) (lives : machine.session.monitor.Lives life)
    (task : frame.ofTask = true) (resumes : machine.Resumes frame below) :
    machine.LooksAfterReap host frame below calls life where
  follows := follows
  lives := lives
  goesOn_iff := by
    rw [inBody_step_iff host machine frame below task resumes]
    constructor
    · exact lives.eq_on
    · rintro ⟨handle, rfl⟩
      exact lives.2.1
  ends off := by
    subst off
    exact step_of_body_off host machine frame below lives.2.1 task resumes
  reads handle on pause := by
    subst on pause
    exact step_of_pause_on host machine below lives.2.1 resumes
  publishes handle reading on read := by
    subst on read
    exact step_of_reading_on host machine reading below lives.2.1 resumes

theorem lifeCalls_of_stopping (host : Host v) (machine : Machine v) (handle : v.Handle)
    (lives : machine.session.monitor.Lives (.on handle))
    (stopping : machine.switching = some false) :
    (machine.step host).session.lifeCalls = machine.session.lifeCalls ++ [.reap handle] ∧
      (machine.step host).session.monitor.Lives .off := by
  obtain ⟨journal, -, stopped⟩ := (stepsAs_of_lives host machine _ lives).stopOn handle rfl stopping
  exact ⟨Session.lifeCalls_append [_] journal, stopped⟩

end Machine

/-- A task that is given back works for a later session exactly if the monitor is started again
before the task looks.

First, let a stop give back a handle while a body of the task is in progress, and look at the body
when it has the say again, for the first time or later. It ends at once, without publishing and
without a pause, unless the monitor has been started again since; then it works on.

Secondly, every load that a body publishes was read at the end of a whole pause which that body had
begun; and either the handle that was held when the body began has been held all along, or it was
given back and the load is published for a later start. -/
theorem reaped_task_works_iff_restarted (host : Host v) (machine : Machine v)
    (below : List (Frame v)) (reachable : Reachable host machine) :
    (∀ handle later frame, machine.switching = some false →
      machine.session.monitor.task = some handle → machine.InBody below →
      (machine.step host).Along host (Machine.InBody below) later →
      frame.ofTask = true → later.Resumes frame below →
      ∃ calls life, later.session.lifeCalls = machine.session.lifeCalls ++ .reap handle :: calls ∧
        later.LooksAfterReap host frame below calls life) ∧
    ∀ reading, machine.Resumes (.sampling true reading) below →
      machine.session.monitor.shouldRun = true →
      ∃ begun pausing woken,
        Machine.HasRead host reading below begun pausing woken machine ∧
        ∃ handle calls, begun.session.monitor.task = some handle ∧
          machine.session.lifeCalls = begun.session.lifeCalls ++ calls ∧
          ((calls = [] ∧ machine.session.monitor.task = some handle) ∨
            ∃ rest newHandle, calls = .reap handle :: rest ∧
              Life.Follows .off rest (.on newHandle) ∧
              machine.session.monitor.task = some newHandle) := by
  constructor
  · intro handle later frame stopping held _ along task resumes
    obtain ⟨life, lives, -⟩ := reachable.follows
    rw [lives.eq_on_of_task held] at lives
    obtain ⟨reaped, stopped⟩ := Machine.lifeCalls_of_stopping host machine handle lives stopping
    obtain ⟨calls, next, made, follows, nextLives⟩ :=
      Machine.moves_follow along.moves .off stopped
    refine ⟨calls, next, ?_, Machine.looksAfterReap_of_lives follows nextLives task resumes⟩
    rw [made, reaped, List.append_assoc]
    rfl
  · intro reading resumes wanted
    obtain ⟨begun, pausing, woken, hasRead⟩ :=
      (Machine.begun_of_reachable reachable below).2 reading resumes.suffix
    refine ⟨begun, pausing, woken, hasRead, ?_⟩
    obtain ⟨life, lives, -⟩ := hasRead.paused.reachable.follows
    obtain ⟨handle, rfl⟩ := lives.eq_on hasRead.paused.begins.2.2
    obtain ⟨calls, next, made, follows, nextLives⟩ :=
      Machine.moves_follow hasRead.along.moves _ lives
    obtain ⟨newHandle, rfl⟩ := nextLives.eq_on wanted
    refine ⟨handle, calls, lives.2.2, made, ?_⟩
    rcases follows.eq_nil_or_reap with ⟨none, same⟩ | ⟨rest, reaped, leads⟩
    · cases same
      exact .inl ⟨none, nextLives.2.2⟩
    · exact .inr ⟨rest, newHandle, reaped, leads, nextLives.2.2⟩

/-! ### The rehearsal with a restart -/

namespace Rehearsal

/-- What lies below the bodies of the first task. -/
def underTask : List (Monitor.Frame vocabulary) := [.host (.running 1)]

theorem along_restarting :
    (restarting 4).Along host (Machine.InBody underTask) (restarting 8) := by
  have switched : (restarting 4).Along host (Machine.InBody underTask) (restarting 7) :=
    ((Relation.ReflTransGen.single ⟨.step, .delaying, rfl, [.host (.nested [])], rfl⟩).tail
      ⟨.step, .delaying, rfl, [.host (.nested [])], rfl⟩).tail
      ⟨.step, .delaying, rfl, [.host (.nested [])], rfl⟩
  exact switched.tail ⟨.step, .delaying, rfl, [], rfl⟩

end Rehearsal

/-- A body whose handle was given back need not end: in the rehearsal with a restart it publishes a
load and begins a pause, while the monitor holds the handle of the new task. -/
theorem not_reaped_task_ends :
    ¬ ∀ (machine later : Machine Rehearsal.vocabulary) (below : List (Frame Rehearsal.vocabulary))
        (frame : Frame Rehearsal.vocabulary),
      Reachable Rehearsal.host machine → machine.switching = some false →
      machine.session.monitor.task.isSome = true → machine.InBody below →
      (machine.step Rehearsal.host).Along Rehearsal.host (Machine.InBody below) later →
      frame.ofTask = true → later.Resumes frame below →
      (later.step Rehearsal.host).session.journal.countP Event.ofTask =
        later.session.journal.countP Event.ofTask := by
  intro ends
  have same := ends (Rehearsal.restarting 3) (Rehearsal.restarting 9) Rehearsal.underTask
    (.sampling true ⟨100, 25⟩) (Rehearsal.reachable_restarting 3) rfl rfl
    ⟨.delaying, rfl, [.host (.nested [.call .start])], rfl⟩
    (Rehearsal.along_restarting.tail ⟨.step, .sampling true ⟨100, 25⟩, rfl, [], rfl⟩)
    rfl ⟨.done, rfl, rfl⟩
  exact absurd same (by decide)

/-- In the rehearsal with a restart the first body goes on after its pause, and the load that it
publishes then has been read at the end of that pause. -/
theorem reaped_task_works_when_restarted :
    ((Rehearsal.restarting 8).step Rehearsal.host).InBody Rehearsal.underTask ∧
      ∃ begun pausing woken,
        Machine.HasRead Rehearsal.host ⟨100, 25⟩ Rehearsal.underTask begun pausing woken
          (Rehearsal.restarting 9) := by
  have reachable := Rehearsal.reachable_restarting
  constructor
  · obtain ⟨calls, life, -, looks⟩ :=
      (reaped_task_works_iff_restarted Rehearsal.host (Rehearsal.restarting 3)
        Rehearsal.underTask (reachable 3)).1 1 (Rehearsal.restarting 8) .delaying rfl rfl
        ⟨.delaying, rfl, [.host (.nested [.call .start])], rfl⟩ Rehearsal.along_restarting rfl
        ⟨.done, rfl, rfl⟩
    exact looks.goesOn_iff.mpr (looks.lives.eq_on rfl)
  · obtain ⟨begun, pausing, woken, hasRead, -⟩ :=
      (reaped_task_works_iff_restarted Rehearsal.host (Rehearsal.restarting 9)
        Rehearsal.underTask (reachable 9)).2 ⟨100, 25⟩ ⟨.done, rfl, rfl⟩ rfl
    exact ⟨begun, pausing, woken, hasRead⟩

end BoardSupport.Monitor
