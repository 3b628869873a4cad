/-
This file says what a watchdog knows of its hardware, whatever that hardware is. The
watchdog never asks the hardware how it is; it keeps a flag and a timeout, and hears
of the hardware only when it arms it. Nevertheless the flag always tells how the
last request that switched the hardware has ended, and as long as the flag is up the
timeout is the one that was given to the hardware last. What the hardware answers is
left open, call by call: its own state may hold any list of answers.
-/

import BoardSupport.Proofs.Watchdog.Servicing
import BoardSupport.Watchdog.Rehearsal

namespace BoardSupport.Watchdog

variable {State : Type}

/-! ### Reading the requests and the operations -/

/-- The requests that switch the hardware on or off. -/
def Request.switches : Request → Bool
  | .disable => true
  | .enable _ _ => true
  | .feed => false

def Request.timeout? : Request → Option UInt32
  | .enable timeout _ => some timeout
  | .disable => none
  | .feed => none

/-- Of some requests, newest first, the last one that switched the hardware has armed it with a
timeout that it kept. -/
def ArmedLast (requests : List Request) : Prop :=
  ∃ timeout kept, requests.find? Request.switches = some (.enable timeout kept) ∧ kept ≠ 0

def Operation.timeout? : Operation → Option UInt32
  | .setTimeout milliseconds => some milliseconds
  | _ => none

/-- The timeout that was set last since the last reset, or the longest one if there is none. -/
def timeoutAfter (operations : List Operation) : UInt32 :=
  ((operations.reverse.takeWhile (· ≠ .reset)).findSome? Operation.timeout?).getD
    Settings.longestTimeout

theorem armedLast_disable (requests : List Request) : ¬ ArmedLast (.disable :: requests) := by
  simp [ArmedLast, Request.switches]

theorem armedLast_enable (timeout kept : UInt32) (requests : List Request) :
    ArmedLast (.enable timeout kept :: requests) ↔ kept ≠ 0 := by
  simp [ArmedLast, Request.switches]

theorem armedLast_feed (requests : List Request) :
    ArmedLast (.feed :: requests) ↔ ArmedLast requests := by
  simp [ArmedLast, Request.switches]

theorem timeoutAfter_reset (operations : List Operation) :
    timeoutAfter (operations ++ [.reset]) = Settings.longestTimeout := by
  simp [timeoutAfter]

theorem timeoutAfter_setTimeout (operations : List Operation) (milliseconds : UInt32) :
    timeoutAfter (operations ++ [.setTimeout milliseconds]) = milliseconds := by
  simp [timeoutAfter, List.findSome?_cons, Operation.timeout?]

/-- Only resetting and setting touch the timeout. -/
theorem timeoutAfter_concat (operations : List Operation) (operation : Operation)
    (lasting : operation ≠ .reset) (unset : operation.timeout? = none) :
    timeoutAfter (operations ++ [operation]) = timeoutAfter operations := by
  simp [timeoutAfter, lasting, unset]

/-! ### One operation -/

/-- The watchdog hears of the hardware when it arms it, and raises or lowers its flag by the
answer. -/
theorem arm_traced (hardware : Hardware State) (watchdog : Watchdog) (traced : Traced State) :
    watchdog.arm hardware.traced traced =
      (⟨watchdog.timeout, (hardware.enable watchdog.timeout traced.state).1 ≠ 0⟩,
        ⟨(hardware.enable watchdog.timeout traced.state).2,
          .enable watchdog.timeout (hardware.enable watchdog.timeout traced.state).1 ::
            traced.requests⟩) := rfl

/-- What a watchdog knows after some operations, which have made some requests, newest first. -/
structure Knows (operations : List Operation) (watchdog : Watchdog) (requests : List Request) :
    Prop where
  enabled : watchdog.enabled = true ↔ ArmedLast requests
  timeout : watchdog.timeout = timeoutAfter operations
  /-- While the watchdog is enabled, its timeout is the one that the hardware was given last. -/
  given : watchdog.enabled = true → requests.findSome? Request.timeout? = some watchdog.timeout

theorem knows_fresh : Knows [] fresh [] where
  enabled := by simp [fresh, ArmedLast]
  timeout := rfl
  given := nofun

theorem knows_arm (hardware : Hardware State) (operations : List Operation) (watchdog : Watchdog)
    (traced : Traced State) (timeout : watchdog.timeout = timeoutAfter operations) :
    Knows operations (watchdog.arm hardware.traced traced).1
      (watchdog.arm hardware.traced traced).2.requests := by
  rw [arm_traced]
  refine ⟨?_, timeout, fun _ => rfl⟩
  rw [armedLast_enable]
  exact decide_eq_true_iff

theorem Knows.perform {operations : List Operation} {watchdog : Watchdog} {traced : Traced State}
    (knows : Knows operations watchdog traced.requests) (hardware : Hardware State)
    (operation : Operation) :
    Knows (operations ++ [operation]) (watchdog.perform hardware.traced operation traced).1
      (watchdog.perform hardware.traced operation traced).2.requests := by
  cases operation with
  | reset => exact ⟨⟨nofun, fun armed => absurd armed (armedLast_disable _)⟩,
      (timeoutAfter_reset operations).symm, nofun⟩
  | enable =>
    refine knows_arm hardware _ watchdog traced ?_
    rw [timeoutAfter_concat operations .enable nofun rfl, knows.timeout]
  | disable =>
    refine ⟨⟨nofun, fun armed => absurd armed (armedLast_disable _)⟩, ?_, nofun⟩
    rw [timeoutAfter_concat operations .disable nofun rfl]
    exact knows.timeout
  | service =>
    have lasting : watchdog.timeout = timeoutAfter (operations ++ [.service]) := by
      rw [timeoutAfter_concat operations .service nofun rfl, knows.timeout]
    by_cases enabled : watchdog.enabled = true
    · rw [Watchdog.perform, if_pos enabled]
      exact ⟨knows.enabled.trans (armedLast_feed _).symm, lasting, knows.given⟩
    · rw [Watchdog.perform, if_neg enabled]
      exact ⟨knows.enabled, lasting, knows.given⟩
  | setTimeout milliseconds =>
    have latest := timeoutAfter_setTimeout operations milliseconds
    by_cases enabled : watchdog.enabled = true
    · rw [Watchdog.perform, if_pos enabled]
      exact knows_arm hardware _ { watchdog with timeout := milliseconds } traced latest.symm
    · rw [Watchdog.perform, if_neg enabled]
      exact ⟨knows.enabled, latest.symm, fun other => absurd other enabled⟩

/-- How an operation shows in the requests to the hardware. -/
structure Shows (hardware : Hardware State) (operation : Operation)
    (before after : Watchdog × Traced State) : Prop where
  /-- Servicing feeds an enabled watchdog, once, and asks for nothing otherwise. -/
  service : operation = .service → after.2.requests =
    (if before.1.enabled then [.feed] else []) ++ before.2.requests
  /-- Nothing else feeds. -/
  unfed : operation ≠ .service →
    ∃ entries, after.2.requests = entries ++ before.2.requests ∧ .feed ∉ entries
  /-- Setting a timeout while the watchdog is enabled arms the hardware with it, once; the watchdog
  stays enabled exactly if the hardware keeps a timeout. -/
  rearmed : ∀ milliseconds, operation = .setTimeout milliseconds → before.1.enabled = true →
    ∃ kept, kept = (hardware.enable milliseconds before.2.state).1 ∧
      after.2.requests = .enable milliseconds kept :: before.2.requests ∧
      after.1 = ⟨milliseconds, kept ≠ 0⟩
  /-- Setting a timeout while the watchdog is disabled asks for nothing. -/
  stored : ∀ milliseconds, operation = .setTimeout milliseconds → before.1.enabled = false →
    after = (⟨milliseconds, false⟩, before.2)

theorem shows_perform (hardware : Hardware State) (operation : Operation) (watchdog : Watchdog)
    (traced : Traced State) :
    Shows hardware operation (watchdog, traced)
      (watchdog.perform hardware.traced operation traced) where
  service := by
    rintro rfl
    rw [Watchdog.perform]
    split <;> rfl
  unfed other := by
    cases operation with
    | reset | disable => exact ⟨[.disable], rfl, by simp⟩
    | enable => exact ⟨[.enable _ _], rfl, by simp⟩
    | service => exact absurd rfl other
    | setTimeout milliseconds =>
      rw [Watchdog.perform]
      split
      · exact ⟨[.enable _ _], rfl, by simp⟩
      · exact ⟨[], rfl, by simp⟩
  rearmed := by
    rintro milliseconds rfl enabled
    rw [Watchdog.perform, if_pos enabled]
    exact ⟨_, rfl, rfl, rfl⟩
  stored := by
    rintro milliseconds rfl disabled
    have enabled : watchdog.enabled = false := disabled
    simp [Watchdog.perform, enabled]

/-- Keeping a record changes nothing. -/
theorem perform_traced (hardware : Hardware State) (operation : Operation) (watchdog : Watchdog)
    (traced : Traced State) :
    watchdog.perform hardware operation traced.state =
      ((watchdog.perform hardware.traced operation traced).1,
        (watchdog.perform hardware.traced operation traced).2.state) := by
  cases operation with
  | reset | enable | disable => rfl
  | service | setTimeout milliseconds =>
    simp only [Watchdog.perform]
    split <;> rfl

/-! ### Whole sequences of operations -/

/-- Where operations lead from a new watchdog, with a record of the requests to its hardware. -/
def recorded (hardware : Hardware State) (state : State) (operations : List Operation) :
    Watchdog × Traced State :=
  performAll hardware.traced operations (fresh, ⟨state, []⟩)

theorem recorded_concat (hardware : Hardware State) (state : State)
    (operations : List Operation) (operation : Operation) :
    recorded hardware state (operations ++ [operation]) =
      (recorded hardware state operations).1.perform hardware.traced operation
        (recorded hardware state operations).2 := by
  rw [recorded, performAll_append]
  rfl

theorem performAll_eq_recorded (hardware : Hardware State) (state : State)
    (operations : List Operation) :
    performAll hardware operations (fresh, state) =
      ((recorded hardware state operations).1, (recorded hardware state operations).2.state) := by
  induction operations using List.reverseRecOn with
  | nil => rfl
  | append_singleton rest last inductionHypothesis =>
    rw [performAll_append, inductionHypothesis, recorded_concat]
    exact perform_traced hardware last _ _

theorem knows_recorded (hardware : Hardware State) (state : State) (operations : List Operation) :
    Knows operations (recorded hardware state operations).1
      (recorded hardware state operations).2.requests := by
  induction operations using List.reverseRecOn with
  | nil => exact knows_fresh
  | append_singleton rest last inductionHypothesis =>
    rw [recorded_concat]
    exact inductionHypothesis.perform hardware last

/-- A watchdog and its hardware stay in step, whatever the hardware answers. After any operations on
a new watchdog, it is enabled exactly if the last request that switched the hardware armed it with a
timeout that was kept; its timeout is the one set last since the last reset, or the longest one; and
while it is enabled, that is the timeout which the hardware was given last. The next operation,
whichever it is, shows in the requests as `Shows` lists. -/
theorem watchdog_keeps_in_step (hardware : Hardware State) (state : State)
    (operations : List Operation) :
    let reached := recorded hardware state operations
    performAll hardware operations (fresh, state) = (reached.1, reached.2.state) ∧
      Knows operations reached.1 reached.2.requests ∧
      ∀ operation, Shows hardware operation reached
        (recorded hardware state (operations ++ [operation])) := by
  intro reached
  refine ⟨performAll_eq_recorded hardware state operations,
    knows_recorded hardware state operations, fun operation => ?_⟩
  rw [recorded_concat]
  exact shows_perform hardware operation reached.1 reached.2

/-- Hardware that keeps a timeout at first and none when it is armed again. -/
example :
    let reached := recorded Keeping.scripted.hardware [8, 0] [.enable, .setTimeout 5, .service]
    reached.1 = ⟨5, false⟩ ∧ reached.2.requests = [.enable 5 0, .enable 0xFFFFFFFF 8] := by
  decide

end BoardSupport.Watchdog
