/-
This file runs a monitor on its host. Calls of the monitor can be nested in one
another: while the sampling task pauses, or while the counters are being read,
the host may call the monitor again. What is in progress is kept on a stack of
frames, so that a run is a sequence of steps and each configuration on the way
can be looked at. `step` is one step, `run` a bounded number of them.
-/

import BoardSupport.Monitor.Host

namespace BoardSupport.Monitor

/-- Something in progress that waits for an outcome. -/
inductive Frame (v : Vocabulary)
  /-- The sampling task, in the pause before its next sample. -/
  | delaying
  /-- A sample whose counters are read and whose load is not yet published. The sampling task
  publishes only if it should still run. -/
  | sampling (byTask : Bool) (reading : RunTime)
  | host (frame : v.Frame)

/-- A monitor on its host in the middle of a run. -/
structure Machine (v : Vocabulary) where
  session : Session v
  /-- What is in progress, innermost first. -/
  stack : List (Frame v)
  control : Control v

namespace Machine

variable {v : Vocabulary}

/-- Do what the host has planned. -/
def follow (machine : Machine v) (plan : Plan v) : Machine v where
  session :=
    { machine.session with
      state := plan.state
      journal := (plan.notes.map .note).reverse ++ machine.session.journal }
  stack := plan.frames.map .host ++ machine.stack
  control := plan.next

def deliver (machine : Machine v) (outcome : Outcome v.Value) : Machine v :=
  { machine with control := .deliver outcome }

/-- Begin a sample: read the idle counter, then the total, and let the host have its say before
the reading is used. -/
def beginSample (host : Host v) (byTask : Bool) (machine : Machine v) : Machine v :=
  let session := (machine.session.record .readIdle).record .readTotal
  let reading := host.runTime session.state
  { machine with session, stack := .sampling byTask reading :: machine.stack }.follow
    (host.duringRead session.state)

/-- The head of the sampling loop: pause while the task should run, and end otherwise. -/
def loopTask (host : Host v) (machine : Machine v) : Machine v :=
  if machine.session.monitor.shouldRun then
    let session := machine.session.record (.delayed Settings.sampleDelay)
    { machine with session, stack := .delaying :: machine.stack }.follow
      (host.duringDelay Settings.sampleDelay session.state)
  else machine.deliver .done

/-- The end of the pause. A task that was told to end meanwhile ends without a sample. -/
def wakeTask (host : Host v) (machine : Machine v) : Machine v :=
  if machine.session.monitor.shouldRun then machine.beginSample host true
  else machine.deliver .done

/-- Publish a sample. The window is measured from the sampler as it is now, not as it was when the
counters were read. -/
def store (byTask : Bool) (reading : RunTime) (machine : Machine v) :
    Option LoadSample × Machine v :=
  let (sample, sampler) := machine.session.monitor.sampler.update reading
  let session :=
    { machine.session with monitor := { machine.session.monitor with sampler } }.record
      (.stored byTask sample)
  (sample, { machine with session })

/-- Complete a sample. The task's own sample is dropped if the task was told to end meanwhile; a
direct one is always published. -/
def endSample (host : Host v) (byTask : Bool) (reading : RunTime) (machine : Machine v) :
    Machine v :=
  if byTask then
    let published :=
      if machine.session.monitor.shouldRun then (machine.store true reading).2 else machine
    published.loopTask host
  else
    let (sample, published) := machine.store false reading
    published.deliver (.sampled sample)

def enter (host : Host v) (call : Call) (machine : Machine v) : Machine v :=
  match call with
  | .start =>
    let (result, session) := machine.session.start host
    { machine with session, control := .deliver (.switched result) }
  | .stop =>
    { machine with
      session := machine.session.stop host
      control := .deliver (.switched (.ok ())) }
  | .sample => machine.beginSample host false
  | .averageLoad => machine.deliver (.load machine.session.monitor.averageLoad)
  | .runTask => machine.loopTask host
  | .command invocation =>
    let (reply, session) := machine.session.command host invocation
    { machine with session, control := .deliver (.replied reply) }

/-- Hand an outcome to a frame that has been taken off the stack. -/
def resume (host : Host v) (outcome : Outcome v.Value) (frame : Frame v) (machine : Machine v) :
    Machine v :=
  match frame with
  | .delaying => machine.wakeTask host
  | .sampling byTask reading => machine.endSample host byTask reading
  | .host frame => machine.follow (host.resume frame outcome machine.session.state)

/-- One step. A run that is over stays as it is. -/
def step (host : Host v) (machine : Machine v) : Machine v :=
  match machine.control with
  | .call call => machine.enter host call
  | .perform operation => machine.follow (host.perform operation machine.session.state)
  | .deliver outcome =>
    match machine.stack with
    | [] => machine
    | frame :: rest => { machine with stack := rest }.resume host outcome frame
  | .abandon => machine

/-- How far a run has come. -/
inductive Progress (Value : Type)
  | finished (outcome : Outcome Value)
  | abandoned
  | underWay

def progress (machine : Machine v) : Progress v.Value :=
  match machine.control, machine.stack with
  | .deliver outcome, [] => .finished outcome
  | .abandon, _ => .abandoned
  | _, _ => .underWay

/-- At most `limit` steps. -/
def run (host : Host v) : Nat → Machine v → Machine v
  | 0, machine => machine
  | limit + 1, machine =>
    match machine.progress with
    | .underWay => run host limit (machine.step host)
    | _ => machine

theorem run_of_not_underWay (host : Host v) (limit : Nat) (machine : Machine v)
    (ended : machine.progress ≠ .underWay) : run host limit machine = machine := by
  cases limit with
  | zero => rfl
  | succ limit =>
    unfold run
    split
    · contradiction
    · rfl

end Machine

/-- Carry something out in a session, with a journal of its own, in at most `limit` steps. -/
def Session.operate {v : Vocabulary} (host : Host v) (limit : Nat) (control : Control v)
    (session : Session v) : Machine.Progress v.Value × Session v :=
  let machine := Machine.run host limit ⟨{ session with journal := [] }, [], control⟩
  (machine.progress, machine.session)

end BoardSupport.Monitor
