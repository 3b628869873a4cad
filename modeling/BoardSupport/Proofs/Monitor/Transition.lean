/-
This file opens one step of a monitor on its host. `Transition` lists the ways in
which a configuration goes on, one rule each, and `transition_step` says that every
step is one of them; what a step keeps is then proved rule by rule. A whole life is
a sequence of moves: steps, and between two calls from outside the choice of the
next call. At such a moment the host may be in any state, since whatever else lives
on it has been free to act.
-/

import Mathlib.Logic.Relation
import BoardSupport.Monitor.Machine

namespace BoardSupport.Monitor

variable {v : Vocabulary}

/-! ### What a step is about -/

/-- Whether a frame belongs to the body of the sampling task. A body in progress has exactly one
such frame: it is either in its pause or in the middle of a sample. -/
def Frame.ofTask : Frame v → Bool
  | .delaying => true
  | .sampling byTask _ => byTask
  | .host _ => false

/-- Work of the sampling task, as the journal shows it: a load that it publishes, and the begin of
a pause. -/
def Event.ofTask : Event v → Bool
  | .stored byTask _ => byTask
  | .delayed _ => true
  | _ => false

/-- The entries of the journal that only switching makes. -/
def Event.ofSwitch : Event v → Bool
  | .cleared => true
  | .spawned _ _ => true
  | .reaped _ => true
  | _ => false

/-- The entries of the journal that tell of a change of the sampler. -/
def Event.ofSampler : Event v → Bool
  | .cleared => true
  | .stored _ _ => true
  | _ => false

def Session.switch (host : Host v) (on : Bool) (session : Session v) : Session v :=
  if on then (session.start host).2 else session.stop host

namespace Machine

/-- Whether the next step switches the monitor, and which way: by a call, or by a command that is
judged to ask for it. -/
def switching (machine : Machine v) : Option Bool :=
  match machine.control with
  | .call .start => some true
  | .call .stop => some false
  | .call (.command invocation) =>
    match machine.session.monitor.judge invocation with
    | .switch on => some on
    | .answer _ _ => none
  | _ => none

/-- An outcome is about to be handed to a frame, which has the say next. -/
def Resumes (frame : Frame v) (below : List (Frame v)) (machine : Machine v) : Prop :=
  ∃ outcome, machine.control = .deliver outcome ∧ machine.stack = frame :: below

theorem call_of_switching {machine : Machine v} {on : Bool} (asked : machine.switching = some on) :
    ∃ call, machine.control = .call call := by
  obtain ⟨session, stack, control⟩ := machine
  cases control with
  | call call => exact ⟨call, rfl⟩
  | perform operation => cases asked
  | deliver outcome => cases asked
  | abandon => cases asked

theorem Resumes.suffix {frame : Frame v} {below : List (Frame v)} {machine : Machine v}
    (resumes : machine.Resumes frame below) : frame :: below <:+ machine.stack := by
  obtain ⟨outcome, -, top⟩ := resumes
  exact ⟨[], top.symm⟩

def beginDelay (host : Host v) (machine : Machine v) : Machine v :=
  let session := machine.session.record (.delayed Settings.sampleDelay)
  { machine with session, stack := .delaying :: machine.stack }.follow
    (host.duringDelay Settings.sampleDelay session.state)

theorem loopTask_of_wanted (host : Host v) (machine : Machine v)
    (wanted : machine.session.monitor.shouldRun = true) :
    machine.loopTask host = machine.beginDelay host := by
  rw [loopTask, if_pos wanted]
  rfl

theorem loopTask_of_unwanted (host : Host v) (machine : Machine v)
    (unwanted : machine.session.monitor.shouldRun = false) :
    machine.loopTask host = machine.deliver .done := by
  rw [loopTask, if_neg (by rw [unwanted]; exact Bool.false_ne_true)]

theorem wakeTask_of_wanted (host : Host v) (machine : Machine v)
    (wanted : machine.session.monitor.shouldRun = true) :
    machine.wakeTask host = machine.beginSample host true := by
  rw [wakeTask, if_pos wanted]

theorem wakeTask_of_unwanted (host : Host v) (machine : Machine v)
    (unwanted : machine.session.monitor.shouldRun = false) :
    machine.wakeTask host = machine.deliver .done := by
  rw [wakeTask, if_neg (by rw [unwanted]; exact Bool.false_ne_true)]

theorem endSample_of_wanted (host : Host v) (reading : RunTime) (machine : Machine v)
    (wanted : machine.session.monitor.shouldRun = true) :
    machine.endSample host true reading = (machine.store true reading).2.beginDelay host := by
  simp only [endSample, if_true, wanted]
  exact loopTask_of_wanted host (machine.store true reading).2 wanted

theorem endSample_of_unwanted (host : Host v) (reading : RunTime) (machine : Machine v)
    (unwanted : machine.session.monitor.shouldRun = false) :
    machine.endSample host true reading = machine.deliver .done := by
  simp only [endSample, if_true, unwanted, Bool.false_eq_true, if_false]
  exact loopTask_of_unwanted host machine unwanted

end Machine

open Machine in
/-- The ways in which a configuration goes on. -/
inductive Transition (host : Host v) (machine : Machine v) : Machine v → Prop
  | rest (ended : machine.progress ≠ .underWay) : Transition host machine machine
  | switch (on : Bool) (outcome : Outcome v.Value) (asked : machine.switching = some on) :
    Transition host machine
      { machine with
        session := machine.session.switch host on
        control := .deliver outcome }
  | answer (call : Call) (outcome : Outcome v.Value) (asked : machine.control = .call call)
      (unswitched : machine.switching = none) (passive : call ≠ .sample ∧ call ≠ .runTask) :
    Transition host machine (machine.deliver outcome)
  /-- The body of the task ends before it has begun, since it should not run. -/
  | decline (asked : machine.control = .call .runTask)
      (unwanted : machine.session.monitor.shouldRun = false) :
    Transition host machine (machine.deliver .done)
  /-- The body of the task begins with a pause. -/
  | enter (asked : machine.control = .call .runTask)
      (wanted : machine.session.monitor.shouldRun = true) :
    Transition host machine (machine.beginDelay host)
  | measure (asked : machine.control = .call .sample) :
    Transition host machine (machine.beginSample host false)
  /-- The task reads the counters after its pause. -/
  | wake (rest : List (Frame v)) (outcome : Outcome v.Value)
      (given : machine.control = .deliver outcome) (top : machine.stack = .delaying :: rest)
      (wanted : machine.session.monitor.shouldRun = true) :
    Transition host machine ({ machine with stack := rest }.beginSample host true)
  /-- The body of the task ends, since it should not run any more. -/
  | leave (frame : Frame v) (rest : List (Frame v)) (outcome : Outcome v.Value)
      (given : machine.control = .deliver outcome) (top : machine.stack = frame :: rest)
      (task : frame.ofTask = true) (unwanted : machine.session.monitor.shouldRun = false) :
    Transition host machine ({ machine with stack := rest }.deliver .done)
  /-- The task publishes a load and begins its next pause. -/
  | publish (reading : RunTime) (rest : List (Frame v)) (outcome : Outcome v.Value)
      (given : machine.control = .deliver outcome)
      (top : machine.stack = .sampling true reading :: rest)
      (wanted : machine.session.monitor.shouldRun = true) :
    Transition host machine
      (({ machine with stack := rest }.store true reading).2.beginDelay host)
  | conclude (reading : RunTime) (rest : List (Frame v)) (outcome : Outcome v.Value)
      (given : machine.control = .deliver outcome)
      (top : machine.stack = .sampling false reading :: rest) :
    Transition host machine
      (({ machine with stack := rest }.store false reading).2.deliver
        (.sampled ({ machine with stack := rest }.store false reading).1))
  | perform (operation : v.Operation) (asked : machine.control = .perform operation) :
    Transition host machine (machine.follow (host.perform operation machine.session.state))
  | resume (frame : v.Frame) (rest : List (Frame v)) (outcome : Outcome v.Value)
      (given : machine.control = .deliver outcome) (top : machine.stack = .host frame :: rest) :
    Transition host machine
      ({ machine with stack := rest }.follow (host.resume frame outcome machine.session.state))

namespace Machine

theorem transition_enter (host : Host v) (machine : Machine v) (call : Call)
    (asked : machine.control = .call call) :
    Transition host machine (machine.enter host call) := by
  cases call with
  | start => exact .switch true _ (by rw [switching, asked])
  | stop => exact .switch false _ (by rw [switching, asked])
  | sample => exact .measure asked
  | averageLoad =>
    exact .answer .averageLoad _ asked (by rw [switching, asked]) ⟨nofun, nofun⟩
  | runTask =>
    show Transition host machine (machine.loopTask host)
    cases wanted : machine.session.monitor.shouldRun with
    | true => rw [loopTask_of_wanted host machine wanted]; exact .enter asked wanted
    | false => rw [loopTask_of_unwanted host machine wanted]; exact .decline asked wanted
  | command invocation =>
    rw [enter, Session.command]
    cases judged : machine.session.monitor.judge invocation with
    | answer result argument =>
      exact .answer (.command invocation) _ asked (by simp only [switching, asked, judged])
        ⟨nofun, nofun⟩
    | switch on =>
      have asked : machine.switching = some on := by simp only [switching, asked, judged]
      cases on with
      | true => exact .switch true _ asked
      | false => exact .switch false _ asked

theorem transition_resume (host : Host v) (machine : Machine v) (frame : Frame v)
    (rest : List (Frame v)) (outcome : Outcome v.Value)
    (given : machine.control = .deliver outcome) (top : machine.stack = frame :: rest) :
    Transition host machine ({ machine with stack := rest }.resume host outcome frame) := by
  cases frame with
  | delaying =>
    show Transition host machine ({ machine with stack := rest }.wakeTask host)
    cases wanted : machine.session.monitor.shouldRun with
    | true =>
      rw [wakeTask_of_wanted host { machine with stack := rest } wanted]
      exact .wake rest outcome given top wanted
    | false =>
      rw [wakeTask_of_unwanted host { machine with stack := rest } wanted]
      exact .leave .delaying rest outcome given top rfl wanted
  | sampling byTask reading =>
    cases byTask with
    | false => exact .conclude reading rest outcome given top
    | true =>
      show Transition host machine
        ({ machine with stack := rest }.endSample host true reading)
      cases wanted : machine.session.monitor.shouldRun with
      | true =>
        rw [endSample_of_wanted host reading { machine with stack := rest } wanted]
        exact .publish reading rest outcome given top wanted
      | false =>
        rw [endSample_of_unwanted host reading { machine with stack := rest } wanted]
        exact .leave (.sampling true reading) rest outcome given top rfl wanted
  | host frame => exact .resume frame rest outcome given top

/-- Every step is one of the rules. -/
theorem transition_step (host : Host v) (machine : Machine v) :
    Transition host machine (machine.step host) := by
  obtain ⟨session, stack, control⟩ := machine
  cases control with
  | call call => exact transition_enter host _ call rfl
  | perform operation => exact .perform operation rfl
  | abandon => exact .rest nofun
  | deliver outcome =>
    cases stack with
    | nil => exact .rest nofun
    | cons frame rest => exact transition_resume host _ frame rest outcome rfl rfl

/-- What waits stays where it is until it is handed an outcome. -/
theorem suffix_or_resumes {host : Host v} {machine next : Machine v} {frame : Frame v}
    {below : List (Frame v)} (taken : Transition host machine next)
    (held : frame :: below <:+ machine.stack) :
    frame :: below <:+ next.stack ∨ machine.Resumes frame below := by
  -- A step that takes a frame off the stack hands an outcome to it.
  have popped : ∀ {top : Frame v} {rest : List (Frame v)} {outcome : Outcome v.Value},
      machine.control = .deliver outcome → machine.stack = top :: rest →
      frame :: below <:+ rest ∨ machine.Resumes frame below := by
    intro top rest outcome given stack
    rw [stack, List.suffix_cons_iff] at held
    rcases held with same | held
    · exact .inr ⟨outcome, given, stack.trans same.symm⟩
    · exact .inl held
  cases taken with
  | rest | switch | answer | decline => exact .inl held
  | enter | measure =>
    exact .inl (held.trans ((List.suffix_cons _ _).trans (List.suffix_append _ _)))
  | perform => exact .inl (held.trans (List.suffix_append _ _))
  | wake rest outcome given top | publish _ rest outcome given top =>
    refine (popped given top).imp_left fun held => ?_
    exact held.trans ((List.suffix_cons _ _).trans (List.suffix_append _ _))
  | leave _ rest outcome given top | conclude _ rest outcome given top => exact popped given top
  | resume _ rest outcome given top =>
    exact (popped given top).imp_left fun held => held.trans (List.suffix_append _ _)

/-- A body that comes out of its pause while the monitor is on reads the counters. -/
theorem step_of_pause_on (host : Host v) (machine : Machine v) (below : List (Frame v))
    (wanted : machine.session.monitor.shouldRun = true)
    (resumes : machine.Resumes .delaying below) :
    machine.step host = { machine with stack := below }.beginSample host true := by
  obtain ⟨session, stack, control⟩ := machine
  obtain ⟨outcome, given, top⟩ := resumes
  cases given
  cases top
  exact wakeTask_of_wanted host _ wanted

/-- A body that has read the counters while the monitor is on publishes a load and begins its next
pause. -/
theorem step_of_reading_on (host : Host v) (machine : Machine v) (reading : RunTime)
    (below : List (Frame v)) (wanted : machine.session.monitor.shouldRun = true)
    (resumes : machine.Resumes (.sampling true reading) below) :
    machine.step host =
      ({ machine with stack := below }.store true reading).2.beginDelay host := by
  obtain ⟨session, stack, control⟩ := machine
  obtain ⟨outcome, given, top⟩ := resumes
  cases given
  cases top
  exact endSample_of_wanted host reading _ wanted

end Machine

/-! ### What a step enters in the journal -/

namespace Session

/-- The journal has grown by entries that all meet a condition, and the sampler has changed only if
one of them says so. -/
def Grown (condition : Event v → Prop) (before after : Session v) : Prop :=
  ∃ entries, after.journal = entries ++ before.journal ∧ (∀ event ∈ entries, condition event) ∧
    ((∀ event ∈ entries, event.ofSampler = false) →
      after.monitor.sampler = before.monitor.sampler)

theorem Grown.refl (condition : Event v → Prop) (session : Session v) :
    Grown condition session session := ⟨[], rfl, nofun, fun _ => rfl⟩

theorem Grown.trans {condition : Event v → Prop} {first middle last : Session v}
    (earlier : Grown condition first middle) (later : Grown condition middle last) :
    Grown condition first last := by
  obtain ⟨old, oldJournal, oldMeet, oldSampler⟩ := earlier
  obtain ⟨new, newJournal, newMeet, newSampler⟩ := later
  refine ⟨new ++ old, by rw [newJournal, oldJournal, List.append_assoc], ?_, ?_⟩
  · intro event member
    rcases List.mem_append.mp member with member | member
    · exact newMeet event member
    · exact oldMeet event member
  · intro silent
    rw [newSampler fun event member => silent event (List.mem_append_left old member),
      oldSampler fun event member => silent event (List.mem_append_right new member)]

theorem Grown.mono {condition weaker : Event v → Prop} {before after : Session v}
    (grown : Grown condition before after) (weaken : ∀ event, condition event → weaker event) :
    Grown weaker before after := by
  obtain ⟨entries, journal, meet, sampler⟩ := grown
  exact ⟨entries, journal, fun event member => weaken event (meet event member), sampler⟩

theorem Grown.record {condition : Event v → Prop} (session : Session v) (event : Event v)
    (meets : condition event) : Grown condition session (session.record event) := by
  refine ⟨[event], rfl, fun other member => ?_, fun _ => rfl⟩
  rw [List.mem_singleton.mp member]
  exact meets

theorem grown_start (host : Host v) (session : Session v) :
    Grown (fun event => event.ofSwitch = true) session (session.start host).2 := by
  unfold start
  split
  · exact .refl _ session
  · rcases spawned : host.spawn samplingTask session.state with ⟨result, state⟩
    cases result with
    | ok handle =>
      refine ⟨[.spawned samplingTask (.ok handle), .cleared], rfl, ?_, ?_⟩
      · simp [Event.ofSwitch]
      · simp [Event.ofSampler]
    | error fault =>
      refine ⟨[.spawned samplingTask (.error fault), .cleared], rfl, ?_, ?_⟩
      · simp [Event.ofSwitch]
      · simp [Event.ofSampler]

theorem grown_stop (host : Host v) (session : Session v) :
    Grown (fun event => event.ofSwitch = true ∧ event ≠ .cleared) session (session.stop host) := by
  unfold stop
  split
  · split
    · exact ⟨[.reaped _], rfl, by simp [Event.ofSwitch], fun _ => rfl⟩
    · exact ⟨[], rfl, nofun, fun _ => rfl⟩
  · exact .refl _ session

end Session

namespace Machine

open Session (Grown)

theorem grown_follow {condition : Event v → Prop} (machine : Machine v) (plan : Plan v)
    (notes : ∀ note, condition (.note note)) :
    Grown condition machine.session (machine.follow plan).session := by
  refine ⟨(plan.notes.map .note).reverse, rfl, fun event member => ?_, fun _ => rfl⟩
  rw [List.mem_reverse, List.mem_map] at member
  obtain ⟨note, -, rfl⟩ := member
  exact notes note

theorem grown_beginSample {condition : Event v → Prop} (host : Host v) (byTask : Bool)
    (machine : Machine v) (idle : condition .readIdle) (total : condition .readTotal)
    (notes : ∀ note, condition (.note note)) :
    Grown condition machine.session (machine.beginSample host byTask).session :=
  ((Grown.record machine.session .readIdle idle).trans
    (Grown.record (machine.session.record .readIdle) .readTotal total)).trans
    (grown_follow ⟨(machine.session.record .readIdle).record .readTotal, _, machine.control⟩ _
      notes)

theorem grown_beginDelay {condition : Event v → Prop} (host : Host v) (machine : Machine v)
    (delayed : condition (.delayed Settings.sampleDelay))
    (notes : ∀ note, condition (.note note)) :
    Grown condition machine.session (machine.beginDelay host).session :=
  (Grown.record machine.session (.delayed Settings.sampleDelay) delayed).trans
    (grown_follow ⟨machine.session.record (.delayed Settings.sampleDelay), _, machine.control⟩ _
      notes)

theorem grown_store {condition : Event v → Prop} (byTask : Bool) (reading : RunTime)
    (machine : Machine v) (stored : ∀ sample, condition (.stored byTask sample)) :
    Grown condition machine.session (machine.store byTask reading).2.session := by
  refine ⟨[.stored byTask (machine.session.monitor.sampler.update reading).1], rfl, ?_, ?_⟩
  · intro event member
    rw [List.mem_singleton.mp member]
    exact stored _
  · exact fun silent => nomatch silent _ (List.mem_singleton_self _)

/-- What a step may enter: the task works only while it should run, entries about switching are
made only by a step that switches, and the sampler is cleared only by a start. -/
structure Permits (machine : Machine v) (event : Event v) : Prop where
  task : event.ofTask = true → machine.session.monitor.shouldRun = true
  switch : event.ofSwitch = true → machine.switching.isSome = true
  cleared : event = .cleared → machine.switching = some true

theorem permits_note (machine : Machine v) (note : v.Note) : machine.Permits (.note note) :=
  ⟨nofun, nofun, nofun⟩

theorem grown_of_switching (host : Host v) (machine : Machine v) (on : Bool)
    (asked : machine.switching = some on) :
    Grown machine.Permits machine.session (machine.session.switch host on) := by
  have untasked : ∀ event : Event v, event.ofSwitch = true → event.ofTask = true →
      machine.session.monitor.shouldRun = true := by
    intro event switched task
    cases event <;> cases switched <;> cases task
  have switching : machine.switching.isSome = true := by rw [asked]; rfl
  cases on with
  | true =>
    exact (Session.grown_start host machine.session).mono fun event switched =>
      ⟨untasked event switched, fun _ => switching, fun _ => asked⟩
  | false =>
    exact (Session.grown_stop host machine.session).mono fun event ⟨switched, uncleared⟩ =>
      ⟨untasked event switched, fun _ => switching, fun cleared => absurd cleared uncleared⟩

theorem grown_of_transition {host : Host v} {machine next : Machine v}
    (taken : Transition host machine next) :
    Grown machine.Permits machine.session next.session := by
  have notes : ∀ note, machine.Permits (.note note) := permits_note machine
  cases taken with
  | rest => exact .refl _ _
  | switch on outcome asked => exact grown_of_switching host machine on asked
  | answer => exact .refl _ _
  | decline => exact .refl _ _
  | enter asked wanted =>
    exact grown_beginDelay host machine ⟨fun _ => wanted, nofun, nofun⟩ notes
  | measure asked =>
    exact grown_beginSample host false machine ⟨nofun, nofun, nofun⟩ ⟨nofun, nofun, nofun⟩ notes
  | wake rest outcome given top wanted =>
    exact grown_beginSample host true { machine with stack := rest } ⟨nofun, nofun, nofun⟩
      ⟨nofun, nofun, nofun⟩ notes
  | leave => exact .refl _ _
  | publish reading rest outcome given top wanted =>
    refine (grown_store true reading { machine with stack := rest }
      fun _ => ⟨fun _ => wanted, nofun, nofun⟩).trans ?_
    exact grown_beginDelay host ({ machine with stack := rest }.store true reading).2
      ⟨fun _ => wanted, nofun, nofun⟩ notes
  | conclude reading rest outcome given top =>
    exact grown_store false reading { machine with stack := rest } fun _ => ⟨nofun, nofun, nofun⟩
  | perform operation asked => exact grown_follow machine _ notes
  | resume frame rest outcome given top =>
    exact grown_follow { machine with stack := rest } _ notes

end Machine

/-! ### Moves -/

/-- A move: a step, or the next call from outside when nothing is in progress. -/
inductive Move (host : Host v) (machine : Machine v) : Machine v → Prop
  | step : Move host machine (machine.step host)
  | next (outcome : Outcome v.Value) (state : v.State) (control : Control v)
      (given : machine.control = .deliver outcome) (empty : machine.stack = []) :
    Move host machine ⟨{ machine.session with state }, [], control⟩

/-- The configurations that a monitor comes to in its life, whatever the host is like, is asked
for, and does at the moments when it has the say. -/
def Reachable (host : Host v) (machine : Machine v) : Prop :=
  ∃ state control, Relation.ReflTransGen (Move host) ⟨.fresh state, [], control⟩ machine

theorem Reachable.fresh (host : Host v) (state : v.State) (control : Control v) :
    Reachable host ⟨.fresh state, [], control⟩ := ⟨state, control, .refl⟩

theorem Reachable.move {host : Host v} {machine next : Machine v}
    (reachable : Reachable host machine) (taken : Move host machine next) :
    Reachable host next := by
  obtain ⟨state, control, path⟩ := reachable
  exact ⟨state, control, path.tail taken⟩

theorem Reachable.run {host : Host v} {machine : Machine v} (reachable : Reachable host machine)
    (limit : Nat) : Reachable host (machine.run host limit) := by
  induction limit generalizing machine with
  | zero => exact reachable
  | succ limit inductionHypothesis =>
    unfold Machine.run
    split
    · exact inductionHypothesis (reachable.move .step)
    · exact reachable

end BoardSupport.Monitor
