/-
This file says which timeout the board's watchdog carries. The hardware counts in steps
of eight milliseconds and has twelve bits for them, so what it keeps of a timeout is
rounded down, at least one step and at most 4095. Arming writes the registers, and
nothing else does but servicing, which writes the key again. Setting a timeout while the
watchdog is off, resetting and disabling leave the registers as they are, but the
watchdog is off then. So whenever it is on, the registers are those of the timeout that
was set last.
-/

import BoardSupport.Proofs.Watchdog.Servicing

namespace BoardSupport.Board.IndependentWatchdog

open Watchdog (performAll)

/-! ### What is kept of a timeout -/

theorem toNat_stepTime : stepTime.toNat = 8 := rfl

theorem toNat_largestReload : largestReload.toNat = 4095 := rfl

/-- The steps of the count for a timeout: those that fit into it, at least one, and at most as many
as the register can hold. -/
def stepsFor (timeout : UInt32) : Nat := min (max (timeout.toNat / 8) 1) 0xFFF

theorem reloadFor_eq_some {timeout : UInt32} (nonzero : timeout ≠ 0) :
    ∃ reload, reloadFor timeout = some reload ∧ reload.toNat = stepsFor timeout := by
  have steps : (timeout / stepTime).toNat = timeout.toNat / 8 := UInt32.toNat_div _ _
  rw [reloadFor, if_neg nonzero]
  by_cases short : timeout / stepTime = 0
  · refine ⟨1, by simp only [short, if_true], ?_⟩
    rw [short] at steps
    rw [stepsFor, ← steps]
    rfl
  · have positive : 0 < timeout.toNat / 8 := by
      rw [← steps]
      exact Nat.pos_of_ne_zero fun none => short (UInt32.toNat_inj.mp none)
    by_cases long : timeout / stepTime > largestReload
    · refine ⟨largestReload, by simp only [short, long, if_true, if_false], ?_⟩
      have beyond : 4095 < timeout.toNat / 8 := by
        rw [← steps]
        exact UInt32.lt_iff_toNat_lt.mp long
      rw [stepsFor, toNat_largestReload]
      omega
    · refine ⟨timeout / stepTime, by simp only [short, long, if_false], ?_⟩
      have within : timeout.toNat / 8 ≤ 4095 := by
        rw [← steps]
        exact UInt32.le_iff_toNat_le.mp (UInt32.not_lt.mp long)
      rw [stepsFor, steps]
      omega

theorem toNat_timeoutOf {reload : UInt32} (narrow : reload.toNat ≤ 0xFFF) :
    (timeoutOf reload).toNat = 8 * reload.toNat := by
  rw [timeoutOf, UInt32.toNat_mul, toNat_stepTime]
  omega

theorem toNat_keptTimeout {timeout : UInt32} (nonzero : timeout ≠ 0) :
    (keptTimeout timeout).toNat = 8 * stepsFor timeout := by
  obtain ⟨reload, found, steps⟩ := reloadFor_eq_some nonzero
  have narrow : reload.toNat ≤ 0xFFF := steps ▸ Nat.min_le_right _ _
  simp only [keptTimeout, found]
  rw [toNat_timeoutOf narrow, steps]

/-- A way to round timeouts that steps of eight milliseconds allow, up to 4095 of them. -/
structure Rounds (kept : UInt32 → UInt32) : Prop where
  within : ∀ timeout, 8 ≤ timeout.toNat → timeout.toNat ≤ 32767 →
    (kept timeout).toNat ≤ timeout.toNat ∧ timeout.toNat < (kept timeout).toNat + 8
  short : ∀ timeout, timeout ≠ 0 → timeout.toNat < 8 → (kept timeout).toNat = 8
  long : ∀ timeout, 32767 < timeout.toNat → (kept timeout).toNat = 32760
  monotone : ∀ first second, first ≠ 0 → first ≤ second → kept first ≤ kept second
  idempotent : ∀ timeout, timeout ≠ 0 → kept (kept timeout) = kept timeout

theorem ne_zero_of_toNat_pos {number : UInt32} (positive : 0 < number.toNat) : number ≠ 0 := by
  rintro rfl
  exact Nat.lt_irrefl 0 positive

theorem toNat_pos_of_ne_zero {number : UInt32} (nonzero : number ≠ 0) : 0 < number.toNat :=
  Nat.pos_of_ne_zero fun none => nonzero (UInt32.toNat_inj.mp none)

theorem rounds_keptTimeout : Rounds keptTimeout where
  within timeout least most := by
    rw [toNat_keptTimeout (ne_zero_of_toNat_pos (by omega)), stepsFor]
    omega
  short timeout nonzero short := by
    rw [toNat_keptTimeout nonzero, stepsFor]
    omega
  long timeout long := by
    rw [toNat_keptTimeout (ne_zero_of_toNat_pos (by omega)), stepsFor]
    omega
  monotone first second nonzero le := by
    have le : first.toNat ≤ second.toNat := UInt32.le_iff_toNat_le.mp le
    have positive : 0 < first.toNat := toNat_pos_of_ne_zero nonzero
    rw [UInt32.le_iff_toNat_le, toNat_keptTimeout nonzero,
      toNat_keptTimeout (ne_zero_of_toNat_pos (by omega)), stepsFor, stepsFor]
    omega
  idempotent timeout nonzero := by
    have kept := toNat_keptTimeout nonzero
    have steps : 1 ≤ stepsFor timeout ∧ stepsFor timeout ≤ 0xFFF := by
      rw [stepsFor]
      omega
    -- What is kept is a whole number of steps already, and within what the register holds.
    rw [← UInt32.toNat_inj, toNat_keptTimeout (ne_zero_of_toNat_pos (by omega)), stepsFor, kept]
    omega

/-! ### What the registers carry -/

/-- The value that was written last to an address. -/
def Watched.lastWrite (watched : Watched) (address : UInt32) : Option UInt32 :=
  (watched.writes.find? (·.address = address)).map Write.value

/-- The registers are those of a timeout, and the count was made to start again after they were
written. -/
structure Watched.Carries (watched : Watched) (timeout : UInt32) : Prop where
  positive : 0 < timeout
  prescaler : watched.registers.prescaler = 6
  reload : watched.registers.reload.toNat = min (max (timeout.toNat / 8) 1) 0xFFF
  key : watched.registers.key = reloadKey
  keyWritten : watched.lastWrite keyAddress = some reloadKey
  effective : 8 * watched.registers.reload.toNat = (keptTimeout timeout).toNat

theorem carries_start {timeout reload : UInt32} (nonzero : timeout ≠ 0)
    (steps : reload.toNat = stepsFor timeout) (watched : Watched) :
    (start Watched.write reload watched).Carries timeout where
  positive := UInt32.pos_iff_ne_zero.mpr nonzero
  prescaler := rfl
  reload := steps
  key := rfl
  keyWritten := rfl
  effective := by
    rw [toNat_keptTimeout nonzero, ← steps]
    rfl

/-- Feeding changes nothing that carries a timeout: the key is the one that was written last. -/
theorem carries_feed {timeout : UInt32} {watched : Watched} (carries : watched.Carries timeout) :
    (watched.write keyAddress reloadKey).Carries timeout where
  positive := carries.positive
  prescaler := carries.prescaler
  reload := carries.reload
  key := rfl
  keyWritten := rfl
  effective := carries.effective

theorem carries_arm (watchdog : Watchdog) (watched : Watched) :
    (watchdog.arm watchedHardware watched).1.enabled = true →
      (watchdog.arm watchedHardware watched).2.Carries
        (watchdog.arm watchedHardware watched).1.timeout := by
  by_cases zero : watchdog.timeout = 0
  · rw [arm_of_zero zero]
    exact nofun
  · obtain ⟨reload, found, steps⟩ := reloadFor_eq_some zero
    have kept : timeoutOf reload ≠ 0 := by
      apply ne_zero_of_toNat_pos
      rw [toNat_timeoutOf] <;> rw [steps, stepsFor] <;> omega
    rw [arm_of_reloadFor found kept]
    exact fun _ => carries_start zero steps watched

/-- One operation keeps it so that the registers of an enabled watchdog carry its timeout. -/
theorem carries_perform (watchdog : Watchdog) (operation : Watchdog.Operation) (watched : Watched)
    (carries : watchdog.enabled = true → watched.Carries watchdog.timeout) :
    (watchdog.perform watchedHardware operation watched).1.enabled = true →
      (watchdog.perform watchedHardware operation watched).2.Carries
        (watchdog.perform watchedHardware operation watched).1.timeout := by
  cases operation with
  | reset => exact nofun
  | disable => exact nofun
  | enable => exact carries_arm watchdog watched
  | service =>
    intro enabled
    have fed : (watchdog.perform watchedHardware .service watched).2 =
        watched.write keyAddress reloadKey := if_pos enabled
    rw [fed]
    exact carries_feed (carries enabled)
  | setTimeout milliseconds =>
    by_cases enabled : watchdog.enabled = true
    · rw [Watchdog.perform, if_pos enabled]
      exact carries_arm { watchdog with timeout := milliseconds } watched
    · rw [Watchdog.perform, if_neg enabled]
      exact fun other => absurd other enabled

theorem carries_drivenBy (registers : Registers) (operations : List Watchdog.Operation) :
    (drivenBy registers operations).1.enabled = true →
      (drivenBy registers operations).2.Carries (drivenBy registers operations).1.timeout := by
  induction operations using List.reverseRecOn with
  | nil => exact nofun
  | append_singleton rest last inductionHypothesis =>
    rw [drivenBy_concat]
    exact carries_perform _ last _ inductionHypothesis

/-! ### A timeout of zero -/

/-- An operation that follows others is refused: it writes no register, and the watchdog is not
enabled after it. -/
structure Refused (registers : Registers) (earlier : List Watchdog.Operation)
    (operation : Watchdog.Operation) : Prop where
  unwritten : (drivenBy registers (earlier ++ [operation])).2 = (drivenBy registers earlier).2
  unarmed : (drivenBy registers (earlier ++ [operation])).1.enabled = false

theorem refused_enable (registers : Registers) (earlier : List Watchdog.Operation)
    (zero : (drivenBy registers earlier).1.timeout = 0) : Refused registers earlier .enable := by
  constructor <;> rw [drivenBy_concat, Watchdog.perform, arm_of_zero zero]

theorem refused_setTimeout (registers : Registers) (earlier : List Watchdog.Operation)
    (enabled : (drivenBy registers earlier).1.enabled = true) :
    Refused registers earlier (.setTimeout 0) := by
  constructor <;> rw [drivenBy_concat, Watchdog.perform, if_pos enabled, arm_of_zero rfl]

/-! ### Whole sequences of operations -/

/-- What can be relied on after operations that began with a new watchdog. -/
structure CarriesTimeout (registers : Registers) (operations : List Watchdog.Operation) : Prop where
  /-- The board's own hardware does the same as the hardware with a record of its writes. -/
  unwatched : performAll hardware operations (.fresh, registers) =
    ((drivenBy registers operations).1, (drivenBy registers operations).2.registers)
  carries : (drivenBy registers operations).1.enabled = true →
    (drivenBy registers operations).2.Carries (drivenBy registers operations).1.timeout
  refusesEnable : (drivenBy registers operations).1.timeout = 0 →
    Refused registers operations .enable
  refusesSetTimeout : (drivenBy registers operations).1.enabled = true →
    Refused registers operations (.setTimeout 0)

/-- The registers of an enabled watchdog are those of the timeout that was set last, rounded down to
what the hardware can count, and a timeout of zero is refused without a write. -/
theorem enabled_carries_timeout :
    (∀ (registers : Registers) (operations : List Watchdog.Operation),
      CarriesTimeout registers operations) ∧
    Rounds keptTimeout :=
  ⟨fun registers operations =>
    { unwatched := registers_drivenBy registers operations
      carries := carries_drivenBy registers operations
      refusesEnable := refused_enable registers operations
      refusesSetTimeout := refused_setTimeout registers operations },
    rounds_keptTimeout⟩

/-- A watchdog that is armed with a second and fed counts two steps once twenty milliseconds are
set. Setting zero after that is refused. -/
theorem enabled_carries_timeout_shortened :
    let operations := [.setTimeout 1000, .enable, .service, .setTimeout 20]
    (drivenBy ⟨0, 0, 0⟩ operations).1 = ⟨20, true⟩ ∧
      (drivenBy ⟨0, 0, 0⟩ operations).2.Carries 20 ∧
      (drivenBy ⟨0, 0, 0⟩ operations).2.registers = ⟨reloadKey, 6, 2⟩ ∧
      Refused ⟨0, 0, 0⟩ operations (.setTimeout 0) ∧ (keptTimeout 20).toNat = 16 := by
  intro operations
  have enabled : (drivenBy ⟨0, 0, 0⟩ operations).1.enabled = true := by decide
  have carried := enabled_carries_timeout.1 ⟨0, 0, 0⟩ operations
  exact ⟨by decide, carried.carries enabled, by decide, carried.refusesSetTimeout enabled,
    by decide⟩

end BoardSupport.Board.IndependentWatchdog
