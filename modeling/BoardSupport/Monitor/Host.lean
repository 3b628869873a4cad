/-
This file holds what the load monitor needs of the system it lives on, and the
two commands that use it: switching on and switching off. A host creates and
removes tasks without calling back into the monitor; while the monitor waits
(in the pause between two samples, or while it reads the counters) the host may
do whatever it likes, which it states as a plan. Everything the monitor does is
entered in a journal.
-/

import BoardSupport.Monitor.State

namespace BoardSupport.Monitor

/-! ### What a host brings along -/

/-- The kinds of things that differ from host to host. -/
structure Vocabulary where
  /-- What the host remembers. -/
  State : Type
  Handle : Type
  /-- What the host can be asked to do, besides the calls of the monitor. -/
  Operation : Type
  /-- Work of the host that waits for an outcome. -/
  Frame : Type
  Value : Type
  /-- What the host enters in the journal. -/
  Note : Type

inductive Call
  | start
  | stop
  /-- Take one sample now, whether or not the monitor runs. -/
  | sample
  | averageLoad
  | runTask
  | command (invocation : Device.Invocation)
  deriving DecidableEq, Repr

/-- What a call, or an operation of the host, comes to. -/
inductive Outcome (Value : Type)
  | done
  | switched (result : Except Fault Unit)
  | sampled (sample : Option LoadSample)
  | load (code : UInt32)
  | replied (reply : Device.Reply)
  | value (value : Value)

inductive Event (v : Vocabulary)
  /-- Starting puts the sampler back to zero. -/
  | cleared
  | spawned (spec : TaskSpec) (result : Except Fault v.Handle)
  | reaped (handle : v.Handle)
  | readIdle
  | readTotal
  | delayed (milliseconds : UInt32)
  /-- A window was closed and its load published, by the sampling task or by a direct call. -/
  | stored (byTask : Bool) (sample : Option LoadSample)
  | note (note : v.Note)

inductive Control (v : Vocabulary)
  | call (call : Call)
  | perform (operation : v.Operation)
  /-- Hand an outcome to whoever waits for one. -/
  | deliver (outcome : Outcome v.Value)
  /-- Give up, leaving everything as it is. -/
  | abandon

/-- What a host does when it has the say: it changes its own state, makes notes, and goes on with
`next`, whose outcome the first of the frames waits for. -/
structure Plan (v : Vocabulary) where
  state : v.State
  next : Control v
  frames : List v.Frame := []
  notes : List v.Note := []

/-- A system on which a monitor can live. -/
structure Host (v : Vocabulary) where
  /-- Create a task, or say why not. -/
  spawn : TaskSpec → v.State → Except Fault v.Handle × v.State
  reap : v.Handle → v.State → v.State
  runTime : v.State → RunTime
  /-- What happens between reading the counters and using them. -/
  duringRead : v.State → Plan v
  /-- What happens while a task pauses for some milliseconds. -/
  duringDelay : UInt32 → v.State → Plan v
  perform : v.Operation → v.State → Plan v
  resume : v.Frame → Outcome v.Value → v.State → Plan v

/-! ### Switching on and off -/

/-- A monitor on its host, with the journal of what happened so far, newest entry first. -/
structure Session (v : Vocabulary) where
  monitor : Monitor v.Handle
  state : v.State
  journal : List (Event v)

namespace Session

variable {v : Vocabulary}

/-- A monitor that was never started, on a host in some state. -/
def fresh (state : v.State) : Session v := ⟨.stopped, state, []⟩

def record (session : Session v) (event : Event v) : Session v :=
  { session with journal := event :: session.journal }

/-- Start the monitor. A running monitor stays as it is. Otherwise the sampler is put back to zero
and the host is asked for the sampling task; if it refuses, whatever the reason, the start has
failed and the monitor stays stopped. -/
def start (host : Host v) (session : Session v) : Except Fault Unit × Session v :=
  if session.monitor.running then (.ok (), session)
  else
    let (result, state) := host.spawn samplingTask session.state
    let journal := .spawned samplingTask result :: .cleared :: session.journal
    match result with
    | .ok handle =>
      (.ok (),
        { monitor := { running := true, shouldRun := true, task := some handle, sampler := .zero }
          state, journal })
    | .error _ =>
      (.error .failed,
        { monitor :=
            { running := false, shouldRun := false, task := session.monitor.task, sampler := .zero }
          state, journal })

/-- Stop the monitor. A stopped monitor stays as it is. Otherwise the task is told to end and its
handle is given back; the published load stays. -/
def stop (host : Host v) (session : Session v) : Session v :=
  if session.monitor.running then
    let monitor := { session.monitor with running := false, shouldRun := false, task := none }
    match session.monitor.task with
    | some handle =>
      { monitor, state := host.reap handle session.state
        journal := .reaped handle :: session.journal }
    | none => { session with monitor }
  else session

def command (host : Host v) (invocation : Device.Invocation) (session : Session v) :
    Device.Reply × Session v :=
  match session.monitor.judge invocation with
  | .answer result argument => (⟨statusWord result, argument⟩, session)
  | .switch true =>
    let (result, session) := session.start host
    (⟨statusWord (result.map fun _ => 0), invocation.argument⟩, session)
  | .switch false =>
    (⟨statusWord (.ok 0), invocation.argument⟩, session.stop host)

theorem start_of_running (host : Host v) (session : Session v)
    (running : session.monitor.running = true) : session.start host = (.ok (), session) := by
  simp [start, running]

theorem stop_of_not_running (host : Host v) (session : Session v)
    (idle : session.monitor.running = false) : session.stop host = session := by
  simp [stop, idle]

end Session

end BoardSupport.Monitor
