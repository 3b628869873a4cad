/-
This file says when servicing the watchdog reaches the hardware behind it. The board's
watchdog cannot be stopped: once its start key was written it counts down until it
is fed or resets the board. The flight software's view of it can be switched off
all the same, and while it is switched off, servicing writes nothing. The two come
apart when the watchdog is disabled, reset or given a timeout of zero after it was
started, and `service_reloads_iff` says that these are the only ways.
-/

import Mathlib.Data.List.Induction
import BoardSupport.Board.IndependentWatchdog

namespace BoardSupport

namespace Watchdog

variable {State : Type}

/-- Carry out operations one after the other. -/
def performAll (hardware : Hardware State) (operations : List Operation)
    (begin : Watchdog × State) : Watchdog × State :=
  operations.foldl (fun current operation => current.1.perform hardware operation current.2) begin

theorem performAll_append (hardware : Hardware State) (earlier later : List Operation)
    (begin : Watchdog × State) :
    performAll hardware (earlier ++ later) begin =
      performAll hardware later (performAll hardware earlier begin) :=
  List.foldl_append

/-- The operations after which the flight software takes the watchdog for switched off, whatever
the hardware does. -/
def Operation.LaysOff : Operation → Prop
  | .reset => True
  | .disable => True
  | .setTimeout milliseconds => milliseconds = 0
  | .enable => False
  | .service => False

end Watchdog

namespace Board.IndependentWatchdog

open Watchdog (performAll)

/-! ### Watching the writes -/

structure Write where
  address : UInt32
  value : UInt32
  deriving DecidableEq, Repr

/-- The registers together with the writes to them so far, newest first. -/
structure Watched where
  registers : Registers
  writes : List Write

namespace Watched

def write (address value : UInt32) (watched : Watched) : Watched :=
  ⟨watched.registers.write address value, ⟨address, value⟩ :: watched.writes⟩

/-- The watchdog counts down: its start key was written, and nothing has stopped it since. -/
def Running (watched : Watched) : Prop := ⟨keyAddress, startKey⟩ ∈ watched.writes

instance (watched : Watched) : Decidable watched.Running :=
  inferInstanceAs (Decidable (_ ∈ watched.writes))

end Watched

/-- The hardware with a record of the writes to its registers. -/
abbrev watchedHardware : Watchdog.Hardware Watched := hardwareOn Watched.write

/-- The start key is among the writes that starting the hardware makes. -/
theorem writes_start (reload : UInt32) (watched : Watched) :
    ∃ entries, (start Watched.write reload watched).writes = entries ++ watched.writes ∧
      ⟨keyAddress, startKey⟩ ∈ entries :=
  ⟨[⟨keyAddress, reloadKey⟩, ⟨reloadAddress, reload⟩, ⟨prescalerAddress, prescalerSetting⟩,
    ⟨keyAddress, unlockKey⟩, ⟨keyAddress, startKey⟩], rfl, by simp⟩

/-! ### Arming -/

/-- Every timeout but zero has a reload value, and the timeout of a reload value is never zero. -/
theorem reloadFor_of_ne_zero {timeout : UInt32} (nonzero : timeout ≠ 0) :
    ∃ reload, reloadFor timeout = some reload ∧ timeoutOf reload ≠ 0 := by
  have keeps : ∀ reload : UInt32, reload ≠ 0 → reload ≤ largestReload → timeoutOf reload ≠ 0 := by
    intro reload positive narrow zero
    rw [UInt32.le_iff_toNat_le] at narrow
    rw [Ne, ← UInt32.toNat_inj] at positive
    have step : stepTime.toNat = 8 := rfl
    have largest : largestReload.toNat = 4095 := rfl
    have none : (0 : UInt32).toNat = 0 := rfl
    rw [timeoutOf, ← UInt32.toNat_inj, UInt32.toNat_mul, step] at zero
    omega
  rw [reloadFor, if_neg nonzero]
  by_cases short : timeout / stepTime = 0
  · exact ⟨1, by simp only [short, if_true], keeps 1 (by decide) (by decide)⟩
  · by_cases long : timeout / stepTime > largestReload
    · exact ⟨largestReload, by simp only [short, long, if_true, if_false],
        keeps largestReload (by decide) (by decide)⟩
    · exact ⟨timeout / stepTime, by simp only [short, long, if_false],
        keeps _ short (UInt32.not_lt.mp long)⟩

/-- Arming with a timeout of zero writes nothing. -/
theorem arm_of_zero {watchdog : Watchdog} (zero : watchdog.timeout = 0) (watched : Watched) :
    watchdog.arm watchedHardware watched = ({ watchdog with enabled := false }, watched) := by
  simp [Watchdog.arm, hardwareOn, reloadFor, zero]

theorem arm_of_reloadFor {watchdog : Watchdog} {reload : UInt32}
    (found : reloadFor watchdog.timeout = some reload) (kept : timeoutOf reload ≠ 0)
    (watched : Watched) :
    watchdog.arm watchedHardware watched =
      ({ watchdog with enabled := true }, start Watched.write reload watched) := by
  simp [Watchdog.arm, hardwareOn, found, kept]

/-- The hardware is armed with any timeout but zero. -/
theorem arm_watched (watchdog : Watchdog) (watched : Watched) :
    (watchdog.arm watchedHardware watched).1 =
        { watchdog with enabled := watchdog.timeout ≠ 0 } ∧
      ∃ entries, (watchdog.arm watchedHardware watched).2.writes = entries ++ watched.writes ∧
        (⟨keyAddress, startKey⟩ ∈ entries ↔ watchdog.timeout ≠ 0) := by
  by_cases zero : watchdog.timeout = 0
  · rw [arm_of_zero zero]
    exact ⟨by simp [zero], [], rfl, by simp [zero]⟩
  · obtain ⟨reload, found, kept⟩ := reloadFor_of_ne_zero zero
    obtain ⟨entries, writes, started⟩ := writes_start reload watched
    rw [arm_of_reloadFor found kept]
    exact ⟨by simp [zero], entries, writes, fun _ => zero, fun _ => started⟩

/-- The operations that arm the hardware: enabling with a timeout that is not zero, and setting such
a timeout while enabled. -/
def Arms (watchdog : Watchdog) : Watchdog.Operation → Prop
  | .enable => watchdog.timeout ≠ 0
  | .setTimeout milliseconds => watchdog.enabled = true ∧ milliseconds ≠ 0
  | _ => False

/-! ### One operation -/

/-- An operation writes the start key exactly if it arms the hardware. -/
theorem writes_perform (watchdog : Watchdog) (operation : Watchdog.Operation) (watched : Watched) :
    ∃ entries, (watchdog.perform watchedHardware operation watched).2.writes =
        entries ++ watched.writes ∧
      (⟨keyAddress, startKey⟩ ∈ entries ↔ Arms watchdog operation) := by
  cases operation with
  | reset => exact ⟨[], rfl, nofun, nofun⟩
  | disable => exact ⟨[], rfl, nofun, nofun⟩
  | enable => exact (arm_watched watchdog watched).2
  | service =>
    cases enabled : watchdog.enabled with
    | false => exact ⟨[], by rw [Watchdog.perform, enabled]; rfl, nofun, nofun⟩
    | true =>
      refine ⟨[⟨keyAddress, reloadKey⟩], by rw [Watchdog.perform, enabled]; rfl, fun member => ?_,
        nofun⟩
      rw [List.mem_singleton] at member
      exact absurd member (by decide)
  | setTimeout milliseconds =>
    cases enabled : watchdog.enabled with
    | false =>
      refine ⟨[], by simp [Watchdog.perform, enabled], nofun, fun arms => ?_⟩
      rw [Arms, enabled] at arms
      exact absurd arms.1 Bool.false_ne_true
    | true =>
      obtain ⟨-, entries, writes, started⟩ :=
        arm_watched { watchdog with timeout := milliseconds } watched
      refine ⟨entries, by rw [Watchdog.perform, if_pos enabled]; exact writes, ?_⟩
      rw [started, Arms, enabled]
      simp

/-- The watchdog is enabled after an operation that arms the hardware, and after one that does not
lay it off if it was enabled before. -/
theorem enabled_perform (watchdog : Watchdog) (operation : Watchdog.Operation) (watched : Watched)
    (sound : watchdog.enabled = true → watchdog.timeout ≠ 0) :
    (watchdog.perform watchedHardware operation watched).1.enabled = true ↔
      Arms watchdog operation ∨ (watchdog.enabled = true ∧ ¬ operation.LaysOff) := by
  cases operation with
  | reset => simp [Watchdog.perform, Watchdog.fresh, Arms, Watchdog.Operation.LaysOff]
  | disable => simp [Watchdog.perform, Arms, Watchdog.Operation.LaysOff]
  | service => simp [Watchdog.perform, Arms, Watchdog.Operation.LaysOff]
  | enable =>
    rw [Watchdog.perform, (arm_watched watchdog watched).1]
    simpa [Arms, Watchdog.Operation.LaysOff] using sound
  | setTimeout milliseconds =>
    by_cases enabled : watchdog.enabled = true
    · rw [Watchdog.perform, if_pos enabled,
        (arm_watched { watchdog with timeout := milliseconds } watched).1]
      simp [Arms, Watchdog.Operation.LaysOff, enabled]
    · simp [Watchdog.perform, Arms, enabled]

/-- While the watchdog is enabled, its timeout is not zero. -/
theorem timeout_perform (watchdog : Watchdog) (operation : Watchdog.Operation) (watched : Watched)
    (sound : watchdog.enabled = true → watchdog.timeout ≠ 0) :
    (watchdog.perform watchedHardware operation watched).1.enabled = true →
      (watchdog.perform watchedHardware operation watched).1.timeout ≠ 0 := by
  cases operation with
  | reset => exact nofun
  | disable => exact nofun
  | service => exact sound
  | enable =>
    rw [Watchdog.perform, (arm_watched watchdog watched).1]
    exact of_decide_eq_true
  | setTimeout milliseconds =>
    by_cases enabled : watchdog.enabled = true
    · rw [Watchdog.perform, if_pos enabled,
        (arm_watched { watchdog with timeout := milliseconds } watched).1]
      exact of_decide_eq_true
    · rw [Watchdog.perform, if_neg enabled]
      exact fun other => absurd other enabled

/-- Watching the writes changes nothing. -/
theorem registers_perform (watchdog : Watchdog) (operation : Watchdog.Operation)
    (watched : Watched) :
    watchdog.perform hardware operation watched.registers =
      ((watchdog.perform watchedHardware operation watched).1,
        (watchdog.perform watchedHardware operation watched).2.registers) := by
  have armed : ∀ other : Watchdog, other.arm hardware watched.registers =
      ((other.arm watchedHardware watched).1,
        (other.arm watchedHardware watched).2.registers) := by
    intro other
    cases found : reloadFor other.timeout with
    | none => simp only [Watchdog.arm, hardware, hardwareOn, found]
    | some reload =>
      simp only [Watchdog.arm, hardware, hardwareOn, found]
      rfl
  cases operation with
  | reset => rfl
  | disable => rfl
  | enable => exact armed watchdog
  | service =>
    simp only [Watchdog.perform]
    split <;> rfl
  | setTimeout milliseconds =>
    simp only [Watchdog.perform]
    split
    · exact armed _
    · rfl

/-! ### Whole sequences of operations -/

/-- What holds after some steps, if it is raised by some steps and kept by some: one of the steps
has raised it, and every step since has kept it. -/
theorem holds_iff_raised {Step : Type} (holds : List Step → Prop)
    (raises : List Step → Step → Prop) (keeps : Step → Prop) (initially : ¬ holds [])
    (next : ∀ earlier step,
      holds (earlier ++ [step]) ↔ raises earlier step ∨ (holds earlier ∧ keeps step))
    (steps : List Step) :
    holds steps ↔ ∃ earlier step later, steps = earlier ++ step :: later ∧ raises earlier step ∧
      ∀ other ∈ later, keeps other := by
  induction steps using List.reverseRecOn with
  | nil => simp [initially]
  | append_singleton rest last inductionHypothesis =>
    rw [next, inductionHypothesis]
    -- The raising step is the last one, or it lies before and the last one has kept what it raised.
    constructor
    · rintro (raised | ⟨⟨earlier, step, later, rfl, raised, kept⟩, keptLast⟩)
      · exact ⟨rest, last, [], rfl, raised, nofun⟩
      · refine ⟨earlier, step, later ++ [last], by simp, raised, fun other member => ?_⟩
        rcases List.mem_append.mp member with member | member
        · exact kept other member
        · rwa [List.mem_singleton.mp member]
    · rintro ⟨earlier, step, later, split, raised, kept⟩
      rcases List.eq_nil_or_concat later with rfl | ⟨later, final, rfl⟩
      · obtain ⟨rfl, same⟩ := List.append_inj' split rfl
        cases same
        exact .inl raised
      · rw [List.concat_eq_append, ← List.cons_append, ← List.append_assoc] at split
        obtain ⟨rfl, same⟩ := List.append_inj' split rfl
        cases same
        refine .inr ⟨⟨earlier, step, later, rfl, raised, fun other member => ?_⟩, ?_⟩
        · exact kept other (by simp [member])
        · exact kept last (by simp)

/-- Where operations lead from a new watchdog, whose hardware was not written to before. -/
def drivenBy (registers : Registers) (operations : List Watchdog.Operation) : Watchdog × Watched :=
  performAll watchedHardware operations (.fresh, ⟨registers, []⟩)

theorem drivenBy_concat (registers : Registers) (earlier : List Watchdog.Operation)
    (operation : Watchdog.Operation) :
    drivenBy registers (earlier ++ [operation]) =
      (drivenBy registers earlier).1.perform watchedHardware operation
        (drivenBy registers earlier).2 := by
  rw [drivenBy, Watchdog.performAll_append]
  rfl

/-- An operation that follows others starts the hardware: it writes the start key. -/
def Starts (registers : Registers) (earlier : List Watchdog.Operation)
    (operation : Watchdog.Operation) : Prop :=
  ∃ entries, (drivenBy registers (earlier ++ [operation])).2.writes =
      entries ++ (drivenBy registers earlier).2.writes ∧
    ⟨keyAddress, startKey⟩ ∈ entries

theorem starts_iff (registers : Registers) (earlier : List Watchdog.Operation)
    (operation : Watchdog.Operation) :
    Starts registers earlier operation ↔ Arms (drivenBy registers earlier).1 operation := by
  obtain ⟨written, writes, started⟩ := writes_perform (drivenBy registers earlier).1 operation
    (drivenBy registers earlier).2
  rw [Starts, drivenBy_concat, writes, ← started]
  constructor
  · rintro ⟨entries, same, member⟩
    rwa [List.append_cancel_right same]
  · exact fun member => ⟨written, rfl, member⟩

theorem timeout_drivenBy (registers : Registers) (operations : List Watchdog.Operation) :
    (drivenBy registers operations).1.enabled = true →
      (drivenBy registers operations).1.timeout ≠ 0 := by
  induction operations using List.reverseRecOn with
  | nil => exact nofun
  | append_singleton rest last inductionHypothesis =>
    rw [drivenBy_concat]
    exact timeout_perform _ last _ inductionHypothesis

/-- The watchdog is enabled exactly if an operation has started the hardware and none since has laid
it off. -/
theorem enabled_drivenBy (registers : Registers) (operations : List Watchdog.Operation) :
    (drivenBy registers operations).1.enabled = true ↔
      ∃ earlier arming later, operations = earlier ++ arming :: later ∧
        Starts registers earlier arming ∧ ∀ operation ∈ later, ¬ operation.LaysOff := by
  refine holds_iff_raised (fun operations => (drivenBy registers operations).1.enabled = true)
    (Starts registers) (fun operation => ¬ operation.LaysOff) nofun
    (fun earlier operation => ?_) operations
  rw [starts_iff, drivenBy_concat]
  exact enabled_perform _ operation _ (timeout_drivenBy registers earlier)

/-- Once started, the hardware runs for good. -/
theorem running_drivenBy (registers : Registers) (operations : List Watchdog.Operation) :
    (drivenBy registers operations).2.Running ↔
      ∃ earlier arming later, operations = earlier ++ arming :: later ∧
        Starts registers earlier arming := by
  have run := holds_iff_raised (fun operations => (drivenBy registers operations).2.Running)
    (Starts registers) (fun _ => True) nofun (fun earlier operation => ?_) operations
  · simpa using run
  · obtain ⟨entries, writes, started⟩ := writes_perform (drivenBy registers earlier).1 operation
      (drivenBy registers earlier).2
    rw [starts_iff, ← started, drivenBy_concat, Watched.Running, writes, List.mem_append]
    simp [Watched.Running]

theorem registers_drivenBy (registers : Registers) (operations : List Watchdog.Operation) :
    performAll hardware operations (.fresh, registers) =
      ((drivenBy registers operations).1, (drivenBy registers operations).2.registers) := by
  induction operations using List.reverseRecOn with
  | nil => rfl
  | append_singleton rest last inductionHypothesis =>
    rw [Watchdog.performAll_append, inductionHypothesis, drivenBy_concat]
    exact registers_perform _ last _

/-- Servicing writes the reload key and nothing else while the watchdog is enabled, and nothing at
all otherwise. -/
theorem writes_service (registers : Registers) (operations : List Watchdog.Operation) :
    (drivenBy registers (operations ++ [.service])).2.writes =
      if (drivenBy registers operations).1.enabled then
        ⟨keyAddress, reloadKey⟩ :: (drivenBy registers operations).2.writes
      else (drivenBy registers operations).2.writes := by
  rw [drivenBy_concat, Watchdog.perform]
  cases (drivenBy registers operations).1.enabled <;> rfl

/-- Servicing feeds the hardware from the moment at which an operation starts it to the next one that
lays the watchdog off: one that disables or resets it, or sets a timeout of zero. The hardware goes
on running then, and servicing writes nothing until it is started again. -/
theorem service_reloads_iff (registers : Registers) (operations : List Watchdog.Operation) :
    performAll hardware operations (.fresh, registers) =
        ((drivenBy registers operations).1, (drivenBy registers operations).2.registers) ∧
      ((drivenBy registers operations).2.Running ↔
        ∃ earlier arming later, operations = earlier ++ arming :: later ∧
          Starts registers earlier arming) ∧
      ((drivenBy registers (operations ++ [.service])).2.writes =
          ⟨keyAddress, reloadKey⟩ :: (drivenBy registers operations).2.writes ↔
        ∃ earlier arming later, operations = earlier ++ arming :: later ∧
          Starts registers earlier arming ∧ ∀ operation ∈ later, ¬ operation.LaysOff) ∧
      ((drivenBy registers (operations ++ [.service])).2.writes =
          ⟨keyAddress, reloadKey⟩ :: (drivenBy registers operations).2.writes ∨
        (drivenBy registers (operations ++ [.service])).2.writes =
          (drivenBy registers operations).2.writes) := by
  refine ⟨registers_drivenBy registers operations, running_drivenBy registers operations, ?_, ?_⟩
  · rw [← enabled_drivenBy, writes_service]
    by_cases enabled : (drivenBy registers operations).1.enabled = true
    · simp [enabled]
    · rw [if_neg enabled]
      exact ⟨fun same => absurd same.symm (List.cons_ne_self _ _), fun other => absurd other enabled⟩
  · rw [writes_service]
    split
    · exact .inl rfl
    · exact .inr rfl

/-- Servicing does not always feed hardware that was started: after the watchdog is enabled and then
disabled, the hardware is running, and servicing writes nothing. -/
theorem not_started_always_fed :
    ¬ ∀ (registers : Registers) (earlier : List Watchdog.Operation) (arming : Watchdog.Operation)
        (later : List Watchdog.Operation), Starts registers earlier arming →
        (drivenBy registers (earlier ++ arming :: later ++ [.service])).2.writes =
          ⟨keyAddress, reloadKey⟩ :: (drivenBy registers (earlier ++ arming :: later)).2.writes := by
  intro fed
  have armed : Watchdog.fresh.timeout ≠ 0 := by decide
  have started : Starts ⟨0, 0, 0⟩ [] .enable := (starts_iff _ _ _).mpr armed
  exact absurd (fed ⟨0, 0, 0⟩ [] .enable [.disable] started) (by decide)

end Board.IndependentWatchdog

end BoardSupport
