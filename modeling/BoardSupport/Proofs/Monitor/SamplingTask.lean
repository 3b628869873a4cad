/-
This file follows the sampling task through a whole script of pauses. As long as
nothing but the counters moves, each turn of its loop is a pause, one reading of
either counter and a load that is published, so the sampler goes through the readings
one by one and nothing else happens to it. The pause in which the monitor is stopped
is the last one, and after it nothing is published.
-/

import BoardSupport.Monitor.Rehearsal
import BoardSupport.Proofs.Monitor.Stopping
import BoardSupport.Proofs.Monitor.Running

namespace BoardSupport.Monitor

variable {v : Vocabulary}

/-! ### What the monitor does -/

/-- Whether an entry of the journal tells of the monitor itself, and is not a note of its host. -/
def Event.ofMonitor : Event v → Bool
  | .note _ => false
  | _ => true

/-- What the monitor has done so far, in the order in which it was done. -/
def Session.work (session : Session v) : List (Event v) :=
  (session.journal.filter Event.ofMonitor).reverse

theorem Session.work_record (session : Session v) (event : Event v)
    (ofMonitor : event.ofMonitor = true) :
    (session.record event).work = session.work ++ [event] := by
  rw [work, record, List.filter_cons_of_pos ofMonitor, List.reverse_cons]
  rfl

namespace Rehearsal

/-! ### Scripts in which only the counters move -/

/-- A move of the counters. -/
inductive CounterMove
  | set (counters : RunTime)
  | advance (step : RunTime)

namespace CounterMove

def operation : CounterMove → Operation
  | set counters => .setCounters counters
  | advance step => .advance step

/-- Where the counters are after the move. -/
def target (counters : RunTime) : CounterMove → RunTime
  | set counters => counters
  | advance step => ⟨counters.total + step.total, counters.idle + step.idle⟩

/-- Where the counters are after several moves. -/
def targets (counters : RunTime) (moves : List CounterMove) : RunTime :=
  moves.foldl target counters

end CounterMove

/-- A pause in which only the counters move, and a reading of them between which and its use they
may move again. -/
structure QuietPause where
  advance : Option RunTime
  during : List CounterMove
  onRead : List CounterMove

/-- Where the counters are once a pause has advanced them. -/
def advanced (counters : RunTime) : Option RunTime → RunTime
  | some step => CounterMove.target counters (.advance step)
  | none => counters

namespace QuietPause

def pause (quiet : QuietPause) : Pause :=
  .mk quiet.advance (quiet.onRead.map CounterMove.operation)
    (quiet.during.map CounterMove.operation)

/-- What is read after the pause. -/
def reading (counters : RunTime) (quiet : QuietPause) : RunTime :=
  CounterMove.targets (advanced counters quiet.advance) quiet.during

/-- Where the counters are when the reading is used. -/
def after (counters : RunTime) (quiet : QuietPause) : RunTime :=
  CounterMove.targets (quiet.reading counters) quiet.onRead

/-- What is read after each of several pauses. -/
def readings (counters : RunTime) : List QuietPause → List RunTime
  | [] => []
  | quiet :: rest => quiet.reading counters :: readings (quiet.after counters) rest

theorem length_readings (counters : RunTime) (quiets : List QuietPause) :
    (readings counters quiets).length = quiets.length := by
  induction quiets generalizing counters with
  | nil => rfl
  | cons quiet rest inductionHypothesis =>
    rw [readings, List.length_cons, List.length_cons, inductionHypothesis]

end QuietPause

/-- How a script goes on when its next pause stops the monitor: there is no entry left, or the entry
calls for a stop, and apart from that only moves the counters. -/
inductive Ending
  | exhausted
  | calling (advance : Option RunTime) (onRead : List Operation) (before after : List CounterMove)
    (rest : List Pause)

def Ending.script : Ending → List Pause
  | exhausted => []
  | calling advance onRead before after rest =>
    .mk advance onRead
      (before.map CounterMove.operation ++ .call .stop :: after.map CounterMove.operation) :: rest

/-! ### Operations one after the other -/

/-- Operations are about to be carried out one after the other. -/
def carrying (session : Session vocabulary) (below : List (Monitor.Frame vocabulary))
    (operations : List Operation) : Machine vocabulary :=
  Machine.follow ⟨session, below, .deliver .done⟩ (session.state.carryOut operations)

theorem carrying_nil (session : Session vocabulary) (below : List (Monitor.Frame vocabulary)) :
    carrying session below [] = ⟨session, below, .deliver .done⟩ := rfl

theorem step_of_nested (session : Session vocabulary) (below : List (Monitor.Frame vocabulary))
    (outcome : Outcome Value) (rest : List Operation) :
    Machine.step host ⟨session, .host (.nested rest) :: below, .deliver outcome⟩ =
      carrying (session.record (.note outcome)) below rest := by
  cases rest <;> rfl

/-- A session that has come to other counters, of which its scheduler may have made notes. -/
structure Moves (session : Session vocabulary) (counters : RunTime) (next : Session vocabulary) :
    Prop where
  monitor : next.monitor = session.monitor
  state : next.state = { session.state with counters }
  work : next.work = session.work

theorem runsTo_of_move (session : Session vocabulary) (below : List (Monitor.Frame vocabulary))
    (move : CounterMove) (rest : List Operation) :
    ∃ next, Moves session (move.target session.state.counters) next ∧
      (carrying session below (move.operation :: rest)).RunsTo host (carrying next below rest) := by
  let moved : Session vocabulary :=
    { session with
      state := { session.state with counters := move.target session.state.counters } }
  refine ⟨moved.record (.note .done), ⟨rfl, rfl, rfl⟩, .of_step (.of_step ?_)⟩
  have performed : Machine.step host (carrying session below (move.operation :: rest)) =
      ⟨moved, .host (.nested rest) :: below, .deliver .done⟩ := by
    cases move <;> rfl
  rw [performed, step_of_nested]
  exact .refl host _

theorem runsTo_of_moves (session : Session vocabulary) (below : List (Monitor.Frame vocabulary))
    (moves : List CounterMove) (rest : List Operation) :
    ∃ next, Moves session (CounterMove.targets session.state.counters moves) next ∧
      (carrying session below (moves.map CounterMove.operation ++ rest)).RunsTo host
        (carrying next below rest) := by
  induction moves generalizing session with
  | nil => exact ⟨session, ⟨rfl, rfl, rfl⟩, .refl host _⟩
  | cons move others inductionHypothesis =>
    obtain ⟨middle, first, run⟩ := runsTo_of_move session below move
      (others.map CounterMove.operation ++ rest)
    obtain ⟨next, moved, runOn⟩ := inductionHypothesis middle
    rw [first.state] at moved
    exact ⟨next, ⟨moved.monitor.trans first.monitor, moved.state.trans (by rw [first.state]; rfl),
      moved.work.trans first.work⟩, run.trans runOn⟩

/-- A monitor that is on is stopped, and all it has done meanwhile is to give back its task. -/
structure Stops (session : Session vocabulary) (handle : UInt32) (next : Session vocabulary) :
    Prop where
  lives : next.monitor.Lives .off
  sampler : next.monitor.sampler = session.monitor.sampler
  work : next.work = session.work ++ [.reaped handle]

theorem stops_stop (session : Session vocabulary) (handle : UInt32)
    (lives : session.monitor.Lives (.on handle)) : Stops session handle (session.stop host) := by
  obtain ⟨journal, -, off⟩ := Session.switch_off_of_on host session handle lives
  refine ⟨off, ?_, ?_⟩
  · rw [Session.stop, if_pos lives.1, lives.2.2]
  · show ((session.stop host).journal.filter Event.ofMonitor).reverse = _
    have journal : (session.stop host).journal = .reaped handle :: session.journal := journal
    rw [journal]
    exact session.work_record (.reaped handle) rfl

theorem runsTo_of_stop (session : Session vocabulary) (below : List (Monitor.Frame vocabulary))
    (handle : UInt32) (lives : session.monitor.Lives (.on handle)) (rest : List Operation) :
    ∃ next, Stops session handle next ∧
      (carrying session below (.call .stop :: rest)).RunsTo host (carrying next below rest) := by
  have stops := stops_stop session handle lives
  refine ⟨(session.stop host).record (.note (.switched (.ok ()))),
    ⟨stops.lives, stops.sampler, stops.work⟩, .of_step (.of_step ?_)⟩
  have stopped : Machine.step host (Machine.step host (carrying session below
      (.call .stop :: rest))) =
        ⟨session.stop host, .host (.nested rest) :: below, .deliver (.switched (.ok ()))⟩ := rfl
  rw [stopped]
  refine .of_step ?_
  rw [step_of_nested]
  exact .refl host _

/-! ### The turns of the task -/

/-- The task begins a pause for which the script has an entry. -/
theorem beginDelay_of_entry (session : Session vocabulary) (below : List (Monitor.Frame vocabulary))
    (advance : Option RunTime) (onRead during : List Operation) (script : List Pause)
    (scripted : session.state.script = .mk advance onRead during :: script) :
    Machine.beginDelay host ⟨session, below, .deliver .done⟩ =
      carrying
        { session.record (.delayed Settings.sampleDelay) with
          state :=
            { session.state with
              counters := advanced session.state.counters advance, script, onRead } }
        (.delaying :: below) during := by
  obtain ⟨monitor, ⟨counters, lastHandle, mode, keep, pending, entries, prepared⟩, journal⟩ :=
    session
  cases scripted
  cases advance <;> rfl

/-- The task reads the counters. -/
theorem beginSample_eq (session : Session vocabulary) (below : List (Monitor.Frame vocabulary)) :
    Machine.beginSample host true ⟨session, below, .deliver .done⟩ =
      carrying
        { (session.record .readIdle).record .readTotal with
          state := { session.state with onRead := [] } }
        (.sampling true session.state.counters :: below) session.state.onRead := rfl

/-- What the task does in one turn: it pauses, reads both counters and publishes a load. -/
def turn (sample : Option LoadSample) : List (Event vocabulary) :=
  [.delayed Settings.sampleDelay, .readIdle, .readTotal, .stored true sample]

/-- The pause of a turn: the task comes out of it with the counters that it is going to read. -/
theorem runsTo_of_pause (session : Session vocabulary) (below : List (Monitor.Frame vocabulary))
    (quiet : QuietPause) (script : List Pause)
    (scripted : session.state.script = quiet.pause :: script) :
    ∃ woken : Session vocabulary, woken.monitor = session.monitor ∧
      woken.state =
        { session.state with
          counters := quiet.reading session.state.counters, script
          onRead := quiet.onRead.map CounterMove.operation } ∧
      woken.work = session.work ++ [.delayed Settings.sampleDelay] ∧
      (Machine.beginDelay host ⟨session, below, .deliver .done⟩).RunsTo host
        ⟨woken, .delaying :: below, .deliver .done⟩ := by
  obtain ⟨woken, moves, run⟩ := runsTo_of_moves
    { session.record (.delayed Settings.sampleDelay) with
      state :=
        { session.state with
          counters := advanced session.state.counters quiet.advance, script
          onRead := quiet.onRead.map CounterMove.operation } }
    (.delaying :: below) quiet.during []
  rw [List.append_nil, carrying_nil] at run
  refine ⟨woken, moves.monitor, moves.state, ?_, ?_⟩
  · rw [moves.work]
    exact session.work_record (.delayed Settings.sampleDelay) rfl
  · rw [beginDelay_of_entry session below _ _ _ script scripted]
    exact run

/-- The reading of a turn: the task reads the counters, which may move again before it publishes the
load and begins its next pause. -/
theorem runsTo_of_reading (session : Session vocabulary) (below : List (Monitor.Frame vocabulary))
    (moves : List CounterMove) (wanted : session.monitor.shouldRun = true)
    (prepared : session.state.onRead = moves.map CounterMove.operation) :
    ∃ next : Session vocabulary,
      next.monitor =
        { session.monitor with
          sampler := (session.monitor.sampler.update session.state.counters).2 } ∧
      next.state =
        { session.state with
          counters := CounterMove.targets session.state.counters moves, onRead := [] } ∧
      next.work = session.work ++
        [.readIdle, .readTotal,
          .stored true (session.monitor.sampler.window session.state.counters)] ∧
      Machine.RunsTo host ⟨session, .delaying :: below, .deliver .done⟩
        (Machine.beginDelay host ⟨next, below, .deliver .done⟩) := by
  obtain ⟨read, moved, run⟩ := runsTo_of_moves
    { (session.record .readIdle).record .readTotal with
      state := { session.state with onRead := [] } }
    (.sampling true session.state.counters :: below) moves []
  rw [List.append_nil, carrying_nil, ← prepared, ← beginSample_eq] at run
  have wakes := Machine.step_of_pause_on host ⟨session, .delaying :: below, .deliver .done⟩ below
    wanted ⟨.done, rfl, rfl⟩
  have publishes := Machine.step_of_reading_on host
    ⟨read, .sampling true session.state.counters :: below, .deliver .done⟩ session.state.counters
    below (by rw [moved.monitor]; exact wanted) ⟨.done, rfl, rfl⟩
  -- The window is closed with the reading, although the counters have moved on since.
  let published : Session vocabulary :=
    { read with
      monitor :=
        { read.monitor with sampler := (read.monitor.sampler.update session.state.counters).2 } }
  refine ⟨published.record (.stored true (read.monitor.sampler.window session.state.counters)),
    ?_, moved.state, ?_, ?_⟩
  · show ({ read.monitor with
      sampler := (read.monitor.sampler.update session.state.counters).2 } : Monitor UInt32) = _
    rw [moved.monitor]
    rfl
  · have publishedWork : published.work = read.work := rfl
    rw [published.work_record _ rfl, publishedWork, moved.work, moved.monitor]
    show ((session.record .readIdle).record .readTotal).work ++ _ = _
    rw [Session.work_record _ _ rfl, Session.work_record _ _ rfl, List.append_assoc,
      List.append_assoc]
    rfl
  · refine .of_step ?_
    rw [wakes]
    refine run.trans (.of_step ?_)
    rw [publishes]
    exact .refl host _

/-- A session in which the task has made one turn. -/
structure Turns (session : Session vocabulary) (quiet : QuietPause) (script : List Pause)
    (next : Session vocabulary) : Prop where
  monitor : next.monitor =
    { session.monitor with
      sampler := (session.monitor.sampler.update (quiet.reading session.state.counters)).2 }
  script : next.state.script = script
  counters : next.state.counters = quiet.after session.state.counters
  work : next.work =
    session.work ++ turn (session.monitor.sampler.window (quiet.reading session.state.counters))

theorem runsTo_of_quiet (session : Session vocabulary) (below : List (Monitor.Frame vocabulary))
    (quiet : QuietPause) (script : List Pause) (wanted : session.monitor.shouldRun = true)
    (scripted : session.state.script = quiet.pause :: script) :
    ∃ next, Turns session quiet script next ∧
      (Machine.beginDelay host ⟨session, below, .deliver .done⟩).RunsTo host
        (Machine.beginDelay host ⟨next, below, .deliver .done⟩) := by
  obtain ⟨woken, monitor, state, work, pause⟩ :=
    runsTo_of_pause session below quiet script scripted
  obtain ⟨next, nextMonitor, nextState, nextWork, reading⟩ := runsTo_of_reading woken below
    quiet.onRead (by rw [monitor]; exact wanted) (by rw [state])
  rw [monitor, state] at nextMonitor nextWork
  rw [state] at nextState
  refine ⟨next, ⟨nextMonitor, by rw [nextState], by rw [nextState]; rfl, ?_⟩, pause.trans reading⟩
  rw [nextWork, work, List.append_assoc]
  rfl

/-! ### The last pause -/

/-- The task begins a pause for which the script has no entry left. -/
theorem beginDelay_of_nil (session : Session vocabulary) (below : List (Monitor.Frame vocabulary))
    (exhausted : session.state.script = []) :
    Machine.beginDelay host ⟨session, below, .deliver .done⟩ =
      ⟨session.record (.delayed Settings.sampleDelay), .delaying :: below, .call .stop⟩ := by
  obtain ⟨monitor, ⟨counters, lastHandle, mode, keep, pending, entries, prepared⟩, journal⟩ :=
    session
  cases exhausted
  rfl

/-- The end of a pause in which the monitor was stopped is the end of the task. -/
theorem runsTo_of_stopped (session : Session vocabulary) (below : List (Monitor.Frame vocabulary))
    (outcome : Outcome Value) (off : session.monitor.Lives .off) :
    Machine.RunsTo host ⟨session, .delaying :: below, .deliver outcome⟩
      ⟨session, below, .deliver .done⟩ := by
  refine .of_step ?_
  rw [Machine.step_of_body_off host _ .delaying below off.2.1 rfl ⟨outcome, rfl, rfl⟩]
  exact .refl host _

theorem runsTo_of_ending (session : Session vocabulary) (below : List (Monitor.Frame vocabulary))
    (handle : UInt32) (ending : Ending) (lives : session.monitor.Lives (.on handle))
    (scripted : session.state.script = ending.script) :
    ∃ later, Stops (session.record (.delayed Settings.sampleDelay)) handle later ∧
      (Machine.beginDelay host ⟨session, below, .deliver .done⟩).RunsTo host
        ⟨later, below, .deliver .done⟩ := by
  cases ending with
  | exhausted =>
    -- Without an entry the pause itself is the call that stops the monitor.
    have stops := stops_stop (session.record (.delayed Settings.sampleDelay)) handle lives
    refine ⟨_, stops, ?_⟩
    rw [beginDelay_of_nil session below scripted]
    exact .of_step (runsTo_of_stopped _ below (.switched (.ok ())) stops.lives)
  | calling advance onRead before after rest =>
    obtain ⟨asked, moved, first⟩ := runsTo_of_moves
      { session.record (.delayed Settings.sampleDelay) with
        state :=
          { session.state with
            counters := advanced session.state.counters advance, script := rest, onRead } }
      (.delaying :: below) before (.call .stop :: after.map CounterMove.operation)
    obtain ⟨stopped, stops, second⟩ := runsTo_of_stop asked (.delaying :: below) handle
      (by rw [moved.monitor]; exact lives) (after.map CounterMove.operation)
    obtain ⟨later, movedOn, third⟩ := runsTo_of_moves stopped (.delaying :: below) after []
    rw [List.append_nil, carrying_nil] at third
    have off : later.monitor.Lives .off := by rw [movedOn.monitor]; exact stops.lives
    refine ⟨later, ⟨off, ?_, ?_⟩, ?_⟩
    · rw [movedOn.monitor, stops.sampler, moved.monitor]
    · rw [movedOn.work, stops.work, moved.work]
      rfl
    · rw [beginDelay_of_entry session below _ _ _ rest scripted]
      exact first.trans (second.trans (third.trans (runsTo_of_stopped later below .done off)))

/-! ### A whole script -/

/-- What the task has done when it has ended: it has folded its readings into the sampler, with one
turn for each of them, and the monitor was stopped in the pause after the last turn. -/
structure Folds (session : Session vocabulary) (handle : UInt32) (readings : List RunTime)
    (later : Session vocabulary) : Prop where
  lives : later.monitor.Lives .off
  sampler : later.monitor.sampler =
    readings.foldl (fun sampler reading => (sampler.update reading).2) session.monitor.sampler
  work : later.work = session.work ++
    ((session.monitor.sampler.updateAll readings).flatMap fun result => turn result.1) ++
      [.delayed Settings.sampleDelay, .reaped handle]

/-- Induction on the pauses in which only the counters move, with one turn for each of them. -/
theorem runsTo_of_script (session : Session vocabulary) (below : List (Monitor.Frame vocabulary))
    (handle : UInt32) (quiets : List QuietPause) (ending : Ending)
    (lives : session.monitor.Lives (.on handle))
    (scripted : session.state.script = quiets.map QuietPause.pause ++ ending.script) :
    ∃ later, Folds session handle (QuietPause.readings session.state.counters quiets) later ∧
      (Machine.beginDelay host ⟨session, below, .deliver .done⟩).RunsTo host
        ⟨later, below, .deliver .done⟩ := by
  induction quiets generalizing session with
  | nil =>
    obtain ⟨later, stops, run⟩ := runsTo_of_ending session below handle ending lives scripted
    refine ⟨later, ⟨stops.lives, stops.sampler, ?_⟩, run⟩
    rw [stops.work, session.work_record _ rfl, List.append_assoc]
    exact congrArg (· ++ _) (List.append_nil session.work).symm
  | cons quiet rest inductionHypothesis =>
    obtain ⟨next, turns, run⟩ := runsTo_of_quiet session below quiet
      (rest.map QuietPause.pause ++ ending.script) lives.2.1 scripted
    obtain ⟨later, ⟨off, sampler, work⟩, runOn⟩ := inductionHypothesis next
      (by rw [turns.monitor]; exact lives.of_sampler _) turns.script
    rw [turns.monitor, turns.counters] at sampler work
    refine ⟨later, ⟨off, sampler, ?_⟩, run.trans runOn⟩
    rw [work, turns.work, QuietPause.readings, Sampler.updateAll, List.flatMap_cons,
      ← List.append_assoc session.work]
    rfl

/-- The sampling task is the fold of the sampler. Run by a monitor that is on, through a script in
which only the counters move and at whose end the monitor is stopped, the task comes to its end. By
then the sampler has been through the readings, one for each pause before the last, and what the
monitor has done is a turn for each of them, with the sample that the sampler makes of it, then one
more pause, and in that pause its one task has been given back. -/
theorem task_folds_sampler (session : Session vocabulary) (below : List (Monitor.Frame vocabulary))
    (handle : UInt32) (quiets : List QuietPause) (ending : Ending)
    (lives : session.monitor.Lives (.on handle))
    (scripted : session.state.script = quiets.map QuietPause.pause ++ ending.script) :
    (QuietPause.readings session.state.counters quiets).length = quiets.length ∧
    ∃ later : Session vocabulary,
      Machine.RunsTo host ⟨session, below, .call .runTask⟩ ⟨later, below, .deliver .done⟩ ∧
      later.monitor.Lives .off ∧
      later.monitor.sampler =
        (QuietPause.readings session.state.counters quiets).foldl
          (fun sampler reading => (sampler.update reading).2) session.monitor.sampler ∧
      later.work = session.work ++
        ((session.monitor.sampler.updateAll
          (QuietPause.readings session.state.counters quiets)).flatMap fun result =>
            [.delayed Settings.sampleDelay, .readIdle, .readTotal, .stored true result.1]) ++
        [.delayed Settings.sampleDelay, .reaped handle] := by
  obtain ⟨later, folds, run⟩ := runsTo_of_script session below handle quiets ending lives scripted
  refine ⟨QuietPause.length_readings _ _, later, .of_step ?_, folds.lives, folds.sampler,
    folds.work⟩
  have begins : Machine.step host ⟨session, below, .call .runTask⟩ =
      Machine.beginDelay host ⟨session, below, .deliver .done⟩ :=
    Machine.loopTask_of_wanted host _ lives.2.1
  rw [begins]
  exact run

/-- Two pauses of a script. Between the first reading and its use the counters go on, and in the
second pause they are set. -/
def twoPauses : List QuietPause :=
  [⟨some ⟨100, 25⟩, [], [.advance ⟨7, 7⟩]⟩, ⟨none, [.set ⟨300, 150⟩, .advance ⟨7, 0⟩], []⟩]

/-- A monitor that was started, with a script of those pauses and one in which it is stopped. -/
def twoTurns : Session vocabulary :=
  let started : Session vocabulary := (fresh.start host).2
  let ending : Ending := .calling none [] [.advance ⟨1, 1⟩] [] []
  { started with
    state := { started.state with script := twoPauses.map QuietPause.pause ++ ending.script } }

theorem task_folds_sampler_two_turns :
    twoTurns.monitor.Lives (.on 1) ∧
      ∃ later : Session vocabulary,
        Machine.RunsTo host ⟨twoTurns, [], .call .runTask⟩ ⟨later, [], .deliver .done⟩ ∧
        later.monitor.Lives .off ∧
        later.monitor.sampler = ⟨307, 150, LoadCode.ofPercent 40⟩ ∧
        later.work = twoTurns.work ++
          [.delayed 1000, .readIdle, .readTotal, .stored true (some ⟨100, 25, 25, 75⟩),
            .delayed 1000, .readIdle, .readTotal, .stored true (some ⟨207, 125, 60, 40⟩),
            .delayed 1000, .reaped 1] := by
  have lives : twoTurns.monitor.Lives (.on 1) := ⟨rfl, rfl, rfl⟩
  obtain ⟨-, later, run, off, sampler, work⟩ :=
    task_folds_sampler twoTurns [] 1 twoPauses (.calling none [] [.advance ⟨1, 1⟩] [] []) lives rfl
  have results : twoTurns.monitor.sampler.updateAll
      (QuietPause.readings twoTurns.state.counters twoPauses) =
        [(some ⟨100, 25, 25, 75⟩, ⟨100, 25, LoadCode.ofPercent 75⟩),
          (some ⟨207, 125, 60, 40⟩, ⟨307, 150, LoadCode.ofPercent 40⟩)] := by
    decide
  rw [results, List.append_assoc] at work
  exact ⟨lives, later, run, off, sampler.trans (by decide), work⟩

end Rehearsal

end BoardSupport.Monitor
