/-
This file proves that a monitor, however it is called, goes through the life of a
machine with two states: off, and on with the handle of its task. The monitor keeps
that state in three variables, which its commands write one after the other;
`Monitor.Lives` says what they hold in either state, and the invariant is that
they always say the same. Since a configuration is looked at between any two
steps, this covers the moments inside a pause of the task or inside a reading of
the counters, at any depth. What the host is asked for follows from the two
states alone: `Life.Follows` is the language of the calls that switching makes.
-/

import BoardSupport.Monitor.Rehearsal
import BoardSupport.Proofs.Monitor.Transition

namespace BoardSupport.Monitor

variable {v : Vocabulary} {Handle : Type}

/-! ### The machine with two states -/

/-- The states of a monitor's life: off, or on with the handle of its task. -/
inductive Life (Handle : Type)
  | off
  | on (handle : Handle)

/-- A call that switching makes to the host. -/
inductive LifeCall (Handle : Type)
  | spawn (answer : Except Fault Handle)
  | reap (handle : Handle)

/-- The calls that really begin or end a task: a handle that is given out, and one that is given
back. -/
def LifeCall.turn? : LifeCall Handle → Option (Bool × Handle)
  | .spawn (.ok handle) => some (true, handle)
  | .spawn (.error _) => none
  | .reap handle => some (false, handle)

namespace Life

def ofAnswer : Except Fault Handle → Life Handle
  | .ok handle => .on handle
  | .error _ => .off

/-- The beginning that has not found its end yet. -/
def turns : Life Handle → List (Bool × Handle)
  | .off => []
  | .on handle => [(true, handle)]

/-- Calls that lead from one state to another. A task is asked for only in the state off, and given
back only in the state on, under the handle that was given out last. -/
def Follows : Life Handle → List (LifeCall Handle) → Life Handle → Prop
  | life, [], final => final = life
  | .off, .spawn answer :: rest, final => Follows (ofAnswer answer) rest final
  | .on handle, .reap reaped :: rest, final => reaped = handle ∧ Follows .off rest final
  | .off, .reap _ :: _, _ => False
  | .on _, .spawn _ :: _, _ => False

theorem Follows.append {first middle last : Life Handle} {earlier later : List (LifeCall Handle)}
    (before : Follows first earlier middle) (after : Follows middle later last) :
    Follows first (earlier ++ later) last := by
  induction earlier generalizing first with
  | nil =>
    have same : middle = first := before
    rw [List.nil_append, ← same]
    exact after
  | cons call rest inductionHypothesis =>
    cases first with
    | off =>
      cases call with
      | spawn answer => exact inductionHypothesis before
      | reap handle => exact before.elim
    | on handle =>
      cases call with
      | spawn answer => exact before.elim
      | reap reaped => exact ⟨before.1, inductionHypothesis before.2⟩

/-- Calls that begin in the state on are none at all, or the handle is given back first. -/
theorem Follows.eq_nil_or_reap {handle : Handle} {last : Life Handle}
    {calls : List (LifeCall Handle)} (follows : Follows (.on handle) calls last) :
    (calls = [] ∧ last = .on handle) ∨
      ∃ rest, calls = .reap handle :: rest ∧ Follows .off rest last := by
  cases calls with
  | nil => exact .inl ⟨rfl, follows⟩
  | cons call rest =>
    cases call with
    | spawn answer => exact follows.elim
    | reap reaped =>
      obtain ⟨rfl, follows⟩ := follows
      exact .inr ⟨rest, rfl, follows⟩

/-- A beginning and an end take turns, each end names the handle of the beginning before it, and at
most the last beginning has no end. -/
theorem Follows.turns_eq {first last : Life Handle} {calls : List (LifeCall Handle)}
    (follows : Follows first calls last) :
    ∃ ended : List Handle, first.turns ++ calls.filterMap LifeCall.turn? =
      (ended.flatMap fun handle => [(true, handle), (false, handle)]) ++ last.turns := by
  induction calls generalizing first with
  | nil =>
    have same : last = first := follows
    exact ⟨[], by rw [same]; exact List.append_nil _⟩
  | cons call rest inductionHypothesis =>
    cases first with
    | off =>
      cases call with
      | spawn answer =>
        obtain ⟨ended, turns⟩ := inductionHypothesis follows
        refine ⟨ended, ?_⟩
        rw [← turns]
        cases answer <;> rfl
      | reap handle => exact follows.elim
    | on handle =>
      cases call with
      | spawn answer => exact follows.elim
      | reap reaped =>
        obtain ⟨same, follows⟩ : reaped = handle ∧ Follows .off rest last := follows
        obtain ⟨ended, turns⟩ := inductionHypothesis follows
        refine ⟨handle :: ended, ?_⟩
        rw [List.flatMap_cons, List.append_assoc, ← turns, same]
        rfl

end Life

/-! ### The two states in the variables of a monitor -/

/-- What the variables of a monitor hold in a state of its life. -/
def Lives (monitor : Monitor Handle) : Life Handle → Prop
  | .off => monitor.running = false ∧ monitor.shouldRun = false ∧ monitor.task = none
  | .on handle => monitor.running = true ∧ monitor.shouldRun = true ∧ monitor.task = some handle

theorem Lives.running_eq_shouldRun {monitor : Monitor Handle} {life : Life Handle}
    (lives : monitor.Lives life) : monitor.running = monitor.shouldRun := by
  cases life with
  | off => rw [lives.1, lives.2.1]
  | on handle => rw [lives.1, lives.2.1]

theorem Lives.running_eq_isSome {monitor : Monitor Handle} {life : Life Handle}
    (lives : monitor.Lives life) : monitor.running = monitor.task.isSome := by
  cases life with
  | off => rw [lives.1, lives.2.2]; rfl
  | on handle => rw [lives.1, lives.2.2]; rfl

theorem Lives.eq_on {monitor : Monitor Handle} {life : Life Handle} (lives : monitor.Lives life)
    (wanted : monitor.shouldRun = true) : ∃ handle, life = .on handle := by
  cases life with
  | off => rw [lives.2.1] at wanted; cases wanted
  | on handle => exact ⟨handle, rfl⟩

theorem Lives.eq_on_of_task {monitor : Monitor Handle} {life : Life Handle} {handle : Handle}
    (lives : monitor.Lives life) (held : monitor.task = some handle) : life = .on handle := by
  cases life with
  | off =>
    rw [lives.2.2] at held
    cases held
  | on other =>
    rw [lives.2.2] at held
    cases held
    rfl

theorem Lives.of_sampler {monitor : Monitor Handle} {life : Life Handle}
    (lives : monitor.Lives life) (sampler : Sampler) :
    ({ monitor with sampler } : Monitor Handle).Lives life := by
  cases life <;> exact lives

def Event.lifeCall? : Event v → Option (LifeCall v.Handle)
  | .spawned _ result => some (.spawn result)
  | .reaped handle => some (.reap handle)
  | _ => none

namespace Session

/-- The calls that switching has made so far, in the order in which they were made. -/
def lifeCalls (session : Session v) : List (LifeCall v.Handle) :=
  session.journal.reverse.filterMap Event.lifeCall?

theorem lifeCalls_append {before after : Session v} (entries : List (Event v))
    (journal : after.journal = entries ++ before.journal) :
    after.lifeCalls = before.lifeCalls ++ entries.reverse.filterMap Event.lifeCall? := by
  rw [lifeCalls, journal, List.reverse_append, List.filterMap_append]
  rfl

theorem lifeCalls_of_grown {before after : Session v}
    (grown : Grown (fun event => event.ofSwitch = false) before after) :
    after.lifeCalls = before.lifeCalls := by
  obtain ⟨entries, journal, quiet, -⟩ := grown
  have none : entries.reverse.filterMap Event.lifeCall? = [] := by
    rw [List.filterMap_eq_nil_iff]
    intro event member
    have unswitched := quiet event (List.mem_reverse.mp member)
    cases event <;> first | rfl | cases unswitched
  rw [lifeCalls_append entries journal, none, List.append_nil]

/-! ### Switching in either state -/

theorem switch_on_of_on (host : Host v) (session : Session v) (handle : v.Handle)
    (lives : session.monitor.Lives (.on handle)) : session.switch host true = session := by
  show (session.start host).2 = session
  rw [start_of_running host session lives.1]

theorem switch_off_of_off (host : Host v) (session : Session v)
    (lives : session.monitor.Lives .off) : session.switch host false = session :=
  stop_of_not_running host session lives.1

/-- Switching on a monitor that is off asks for its task, and nothing else. -/
theorem switch_on_of_off (host : Host v) (session : Session v)
    (lives : session.monitor.Lives .off) :
    (session.switch host true).journal =
        .spawned samplingTask (host.spawn samplingTask session.state).1 :: .cleared ::
          session.journal ∧
      (session.switch host true).state = (host.spawn samplingTask session.state).2 ∧
      (session.switch host true).monitor.Lives
        (.ofAnswer (host.spawn samplingTask session.state).1) := by
  have started : session.switch host true = (session.start host).2 := rfl
  rw [started, start, if_neg (by rw [lives.1]; exact Bool.false_ne_true)]
  rcases host.spawn samplingTask session.state with ⟨result, state⟩
  cases result with
  | ok handle => exact ⟨rfl, rfl, rfl, rfl, rfl⟩
  | error fault => exact ⟨rfl, rfl, rfl, rfl, lives.2.2⟩

/-- Switching off a monitor that is on gives back its task, and nothing else. -/
theorem switch_off_of_on (host : Host v) (session : Session v) (handle : v.Handle)
    (lives : session.monitor.Lives (.on handle)) :
    (session.switch host false).journal = .reaped handle :: session.journal ∧
      (session.switch host false).state = host.reap handle session.state ∧
      (session.switch host false).monitor.Lives .off := by
  have stopped : session.switch host false = session.stop host := rfl
  rw [stopped, stop, if_pos lives.1, lives.2.2]
  exact ⟨rfl, rfl, rfl, rfl, rfl⟩

end Session

/-! ### The simulation -/

namespace Machine

theorem session_of_switching (host : Host v) (machine : Machine v) (on : Bool)
    (asked : machine.switching = some on) :
    (machine.step host).session = machine.session.switch host on := by
  obtain ⟨session, stack, control⟩ := machine
  obtain ⟨call, called⟩ := call_of_switching asked
  cases called
  cases call with
  | start => cases asked; rfl
  | stop => cases asked; rfl
  | command invocation =>
    simp only [switching] at asked
    split at asked
    · rename_i judged
      cases asked
      simp only [step, enter, Session.command, judged]
      cases on <;> rfl
    · cases asked
  | sample => cases asked
  | averageLoad => cases asked
  | runTask => cases asked

/-- A step that does not switch the monitor changes at most its sampler. -/
theorem monitor_of_unswitched {host : Host v} {machine next : Machine v}
    (taken : Transition host machine next) (unswitched : machine.switching = none) :
    ∃ sampler, next.session.monitor = { machine.session.monitor with sampler } := by
  cases taken with
  | switch on outcome asked => rw [unswitched] at asked; cases asked
  | publish reading => exact ⟨(machine.session.monitor.sampler.update reading).2, rfl⟩
  | conclude reading => exact ⟨(machine.session.monitor.sampler.update reading).2, rfl⟩
  | _ => exact ⟨machine.session.monitor.sampler, rfl⟩

theorem lifeCalls_of_unswitched {host : Host v} {machine next : Machine v}
    (taken : Transition host machine next) (unswitched : machine.switching = none) :
    next.session.lifeCalls = machine.session.lifeCalls := by
  refine Session.lifeCalls_of_grown ((grown_of_transition taken).mono fun event permitted => ?_)
  cases made : event.ofSwitch with
  | false => rfl
  | true =>
    have switched := permitted.switch made
    rw [unswitched] at switched
    cases switched

/-- How the next step of a monitor shows in its life. -/
structure StepsAs (host : Host v) (machine : Machine v) (life : Life v.Handle) : Prop where
  /-- A step that does not switch leaves the state, and makes none of the calls of switching. -/
  unswitched : machine.switching = none →
    (machine.step host).session.monitor.Lives life ∧
      (machine.step host).session.lifeCalls = machine.session.lifeCalls
  /-- Starting a monitor that is on changes nothing and calls nobody. -/
  startOn : ∀ handle, life = .on handle → machine.switching = some true →
    (machine.step host).session = machine.session
  /-- Stopping a monitor that is off changes nothing and calls nobody. -/
  stopOff : life = .off → machine.switching = some false →
    (machine.step host).session = machine.session
  /-- Starting a monitor that is off asks for the task, once. -/
  startOff : life = .off → machine.switching = some true →
    (machine.step host).session.journal =
        .spawned samplingTask (host.spawn samplingTask machine.session.state).1 :: .cleared ::
          machine.session.journal ∧
      (machine.step host).session.state = (host.spawn samplingTask machine.session.state).2 ∧
      (machine.step host).session.monitor.Lives
        (.ofAnswer (host.spawn samplingTask machine.session.state).1)
  /-- Stopping a monitor that is on gives back its task, once. -/
  stopOn : ∀ handle, life = .on handle → machine.switching = some false →
    (machine.step host).session.journal = .reaped handle :: machine.session.journal ∧
      (machine.step host).session.state = host.reap handle machine.session.state ∧
      (machine.step host).session.monitor.Lives .off

theorem stepsAs_of_lives (host : Host v) (machine : Machine v) (life : Life v.Handle)
    (lives : machine.session.monitor.Lives life) : machine.StepsAs host life where
  unswitched unswitched := by
    have taken := transition_step host machine
    obtain ⟨sampler, monitor⟩ := monitor_of_unswitched taken unswitched
    refine ⟨?_, lifeCalls_of_unswitched taken unswitched⟩
    rw [monitor]
    exact lives.of_sampler sampler
  startOn handle same asked := by
    subst same
    rw [session_of_switching host machine true asked]
    exact Session.switch_on_of_on host machine.session handle lives
  stopOff same asked := by
    subst same
    rw [session_of_switching host machine false asked]
    exact Session.switch_off_of_off host machine.session lives
  startOff same asked := by
    subst same
    rw [session_of_switching host machine true asked]
    exact Session.switch_on_of_off host machine.session lives
  stopOn handle same asked := by
    subst same
    rw [session_of_switching host machine false asked]
    exact Session.switch_off_of_on host machine.session handle lives

theorem step_follows (host : Host v) (machine : Machine v) (life : Life v.Handle)
    (lives : machine.session.monitor.Lives life) :
    ∃ calls next, (machine.step host).session.lifeCalls = machine.session.lifeCalls ++ calls ∧
      life.Follows calls next ∧ (machine.step host).session.monitor.Lives next := by
  have steps := stepsAs_of_lives host machine life lives
  cases asked : machine.switching with
  | none =>
    obtain ⟨kept, calls⟩ := steps.unswitched asked
    exact ⟨[], life, by rw [calls, List.append_nil], rfl, kept⟩
  | some on =>
    cases on with
    | true =>
      cases life with
      | off =>
        obtain ⟨journal, -, started⟩ := steps.startOff rfl asked
        refine ⟨[.spawn (host.spawn samplingTask machine.session.state).1], _, ?_, rfl, started⟩
        exact Session.lifeCalls_append [_, _] journal
      | on handle =>
        have same := steps.startOn handle rfl asked
        exact ⟨[], .on handle, by rw [same, List.append_nil], rfl, by rw [same]; exact lives⟩
    | false =>
      cases life with
      | off =>
        have same := steps.stopOff rfl asked
        exact ⟨[], .off, by rw [same, List.append_nil], rfl, by rw [same]; exact lives⟩
      | on handle =>
        obtain ⟨journal, -, stopped⟩ := steps.stopOn handle rfl asked
        refine ⟨[.reap handle], .off, ?_, ⟨rfl, rfl⟩, stopped⟩
        exact Session.lifeCalls_append [_] journal

/-- The calls of a whole sequence of moves lead from the state before it to the state after it. -/
theorem moves_follow {host : Host v} {machine later : Machine v}
    (path : Relation.ReflTransGen (Move host) machine later) (life : Life v.Handle)
    (lives : machine.session.monitor.Lives life) :
    ∃ calls next, later.session.lifeCalls = machine.session.lifeCalls ++ calls ∧
      life.Follows calls next ∧ later.session.monitor.Lives next := by
  induction path with
  | refl => exact ⟨[], life, (List.append_nil _).symm, rfl, lives⟩
  | @tail middle later _ taken inductionHypothesis =>
    obtain ⟨calls, next, made, follows, kept⟩ := inductionHypothesis
    cases taken with
    | step =>
      obtain ⟨more, final, madeMore, leads, keptMore⟩ := step_follows host middle next kept
      exact ⟨calls ++ more, final, by rw [madeMore, made, List.append_assoc],
        follows.append leads, keptMore⟩
    | next => exact ⟨calls, next, made, follows, kept⟩

end Machine

/-- In every configuration the monitor is in a state of its life, to which the calls made so far
lead. -/
theorem Reachable.follows {host : Host v} {machine : Machine v}
    (reachable : Reachable host machine) :
    ∃ life, machine.session.monitor.Lives life ∧
      Life.Follows .off machine.session.lifeCalls life := by
  obtain ⟨state, control, path⟩ := reachable
  obtain ⟨calls, life, made, follows, lives⟩ := Machine.moves_follow path .off ⟨rfl, rfl, rfl⟩
  have made : machine.session.lifeCalls = calls := made
  exact ⟨life, lives, by rw [made]; exact follows⟩

/-- However a monitor is called, at every moment its two flags and the handle it holds say the same,
and it goes through the life of the machine with two states: each step does there what `StepsAs`
lists, and the calls that switching has made so far lead from the state off to the present one. In
particular, beginnings and ends of tasks take turns, and every end names the handle of the latest
beginning. -/
theorem simulates_two_states (host : Host v) (machine : Machine v)
    (reachable : Reachable host machine) :
    machine.session.monitor.running = machine.session.monitor.shouldRun ∧
      machine.session.monitor.running = machine.session.monitor.task.isSome ∧
      ∃ life : Life v.Handle,
        machine.session.monitor.Lives life ∧
        machine.StepsAs host life ∧
        Life.Follows .off machine.session.lifeCalls life ∧
        ∃ ended : List v.Handle, machine.session.lifeCalls.filterMap LifeCall.turn? =
          (ended.flatMap fun handle => [(true, handle), (false, handle)]) ++ life.turns := by
  obtain ⟨life, lives, follows⟩ := reachable.follows
  exact ⟨lives.running_eq_shouldRun, lives.running_eq_isSome, life, lives,
    Machine.stepsAs_of_lives host machine life lives, follows, follows.turns_eq⟩

/-! ### A restart inside a pause -/

namespace Rehearsal

/-- A number of steps of a rehearsal with a restart: the monitor is started, its task is run, and
in the first pause of the task the counters advance and the monitor is stopped and started again. -/
def restarting (steps : Nat) : Machine vocabulary :=
  Machine.run host steps
    ⟨(fresh.start host).2, [],
      .perform (.runPending [.mk (some ⟨100, 25⟩) [] [.call .stop, .call .start]])⟩

theorem reachable_restarting (steps : Nat) : Reachable host (restarting steps) :=
  (((Reachable.fresh host .fresh (.call .start)).move .step).move
    (.next _ _ _ rfl rfl)).run steps

end Rehearsal

/-- After the restart, inside the pause of the first task, the monitor holds the second handle. -/
theorem simulates_two_states_restarted :
    Reachable Rehearsal.host (Rehearsal.restarting 8) ∧
      (Rehearsal.restarting 8).session.monitor.task = some 2 ∧
      ∃ life : Life UInt32,
        (Rehearsal.restarting 8).session.monitor.Lives life ∧
        (Rehearsal.restarting 8).StepsAs Rehearsal.host life ∧
        Life.Follows .off (Rehearsal.restarting 8).session.lifeCalls life := by
  have reachable := Rehearsal.reachable_restarting 8
  obtain ⟨-, -, life, lives, steps, follows, -⟩ :=
    simulates_two_states Rehearsal.host (Rehearsal.restarting 8) reachable
  exact ⟨reachable, rfl, life, lives, steps, follows⟩

end BoardSupport.Monitor
