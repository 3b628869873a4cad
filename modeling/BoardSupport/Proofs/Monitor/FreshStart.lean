/-
This file says that starting a monitor leaves nothing behind of what happened to it
before. A monitor that is off, whatever way it got there, holds no handle, and its
sampler is put back to zero whether or not the host gives it a task. From the
start on it therefore goes the same way as a monitor that was never started, on a
scheduler in the same state, through any operations that may follow, and each of
these comes to an end.
-/

import BoardSupport.Proofs.Monitor.Finishing
import BoardSupport.Proofs.Monitor.Starting

namespace BoardSupport.Monitor

variable {v : Vocabulary}

theorem Lives.off {Handle : Type} {monitor : Monitor Handle} {life : Life Handle}
    (lives : monitor.Lives life) (stopped : monitor.running = false) : monitor.Lives .off := by
  cases life with
  | off => exact lives
  | on handle =>
    rw [lives.1] at stopped
    cases stopped

/-- Of a monitor that is off a start keeps nothing. -/
theorem Session.start_of_off (host : Host v) (session : Session v)
    (off : session.monitor.Lives .off) :
    session.start host = { session with monitor := .stopped }.start host := by
  obtain ⟨⟨running, shouldRun, task, sampler⟩, state, journal⟩ := session
  obtain ⟨rfl, rfl, rfl⟩ : running = false ∧ shouldRun = false ∧ task = none := off
  rfl

namespace Rehearsal

/-- A start is over in two steps. -/
theorem operate_start (session : Session vocabulary) :
    operate (.call .start) session =
      let (result, after) := { session with journal := [] }.start host
      (.finished (.switched result), after) := by
  let machine : Machine vocabulary :=
    ⟨{ session with journal := [] }, [], .perform (.call .start)⟩
  have enough : stepBound (.call .start) session.state =
      stepBound (.call .start) session.state - 2 + 2 := by
    rw [stepBound]
    omega
  have ended : ((machine.step host).step host).progress =
      .finished (.switched ({ session with journal := [] }.start host).1) := rfl
  have ran : machine.run host (stepBound (.call .start) session.state) =
      (machine.step host).step host := by
    rw [enough, Machine.run_succ, Machine.run_succ,
      Machine.run_of_not_underWay host _ _ (by rw [ended]; nofun)]
  show ((machine.run host (stepBound (.call .start) session.state)).progress,
    (machine.run host (stepBound (.call .start) session.state)).session) = _
  rw [ran, ended]
  rfl

theorem operate_start_of_off (session : Session vocabulary) (off : session.monitor.Lives .off) :
    operate (.call .start) session = operate (.call .start) (.fresh session.state) := by
  rw [operate_start, operate_start, Session.start_of_off host { session with journal := [] } off]
  rfl

/-- A restart is a fresh start. Take any monitor that is off, whatever it has gone through, and put
any scheduler under it: whatever is then done with it, beginning with a start, goes as with a
monitor that was never started. After every operation the outcome, the calls made to the scheduler
and everything else in the journal, the state of the scheduler, and the monitor with its flags, its
handle and its sampler are the same. None of the operations runs forever. -/
theorem restart_is_fresh_start (machine : Machine vocabulary) (reachable : Reachable host machine)
    (stopped : machine.session.monitor.running = false) (scheduler : Scheduler)
    (operations : List Operation) :
    operateAll { machine.session with state := scheduler } (.call .start :: operations) =
        operateAll (.fresh scheduler) (.call .start :: operations) ∧
      ∀ entry ∈ operateAll (.fresh scheduler) (.call .start :: operations),
        ∃ outcome, entry.1 = .finished outcome := by
  obtain ⟨life, lives, -⟩ := reachable.follows
  constructor
  · have same :=
      operate_start_of_off { machine.session with state := scheduler } (lives.off stopped)
    rw [operateAll, operateAll, same]
  · have never : (Session.fresh scheduler : Session vocabulary).monitor.Lives .off :=
      ⟨rfl, rfl, rfl⟩
    exact operateAll_finishes (.call .start :: operations) (.fresh scheduler) never

/-- The first session has ended with a load that can still be read, and its task is left over on the
scheduler. In the second session that task samples for the new one: nothing of the old load shows,
and half of the time is found idle. -/
theorem restart_is_fresh_start_second_session :
    let before := (restartingAt ⟨400, 100⟩).session
    let scheduler := { Scheduler.fresh with lastHandle := 6, pending := [1] }
    let operations := [.runPending [.mk (some ⟨1000, 500⟩) [] []]]
    before.monitor.averageLoad = 0xC00C00 ∧
      operateAll { before with state := scheduler } (.call .start :: operations) =
        operateAll (.fresh scheduler) (.call .start :: operations) ∧
      (operateAll { before with state := scheduler } (.call .start :: operations)).map
        (fun entry => entry.2.monitor.averageLoad) = [0, 0x800800] := by
  intro before scheduler operations
  obtain ⟨same, -⟩ := restart_is_fresh_start (restartingAt ⟨400, 100⟩)
    (reachable_restartingAt ⟨400, 100⟩) rfl scheduler operations
  exact ⟨by decide, same, by decide⟩

end Rehearsal

end BoardSupport.Monitor
