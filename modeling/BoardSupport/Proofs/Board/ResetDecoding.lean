/-
This file says which bits of the reset flags lead to which cause. The board tests the
flags with masks, one of which has two bits; each test is brought to positions of bits
first, and from there on the masks are gone. `Decodes` has for every cause the bits that
must be set and the more telling ones that must not be.
-/

import Mathlib.Data.Nat.Bitwise
import BoardSupport.Board.ResetFlags

namespace BoardSupport.Board.ResetFlags

/-! ### Masks and positions -/

def IsSet (flags : UInt32) (position : Nat) : Prop := flags.toNat.testBit position = true

instance (flags : UInt32) (position : Nat) : Decidable (IsSet flags position) :=
  inferInstanceAs (Decidable (_ = true))

theorem has_iff (flags mask : UInt32) : has flags mask ↔ flags.toNat &&& mask.toNat ≠ 0 := by
  rw [has, decide_eq_true_iff, ne_eq, ← UInt32.toNat_inj, UInt32.toNat_and, UInt32.toNat_zero]

/-- A mask of several bits asks for any of them. -/
theorem has_or (flags first second : UInt32) :
    has flags (first ||| second) ↔ has flags first ∨ has flags second := by
  rw [has_iff, has_iff, has_iff, UInt32.toNat_or, Nat.and_or_distrib_left, ne_eq,
    Nat.or_eq_zero_iff, not_and_or]

theorem has_iff_isSet (flags : UInt32) {mask : UInt32} {position : Nat}
    (single : mask.toNat = 2 ^ position) : has flags mask ↔ IsSet flags position := by
  rw [has_iff, single, Nat.and_two_pow, IsSet]
  cases flags.toNat.testBit position <;> simp

/-! ### From the bits to the cause -/

theorem cause_eq (flags : UInt32) :
    cause flags =
      if IsSet flags 27 then .powerOn
      else if IsSet flags 25 then .brownout
      else if IsSet flags 29 ∨ IsSet flags 30 then .watchdog
      else if IsSet flags 28 then .software
      else if IsSet flags 31 then .unknown
      else if IsSet flags 26 then .pin
      else .unknown := by
  simp only [cause, has_or,
    has_iff_isSet flags (show powerOn.toNat = 2 ^ 27 from rfl),
    has_iff_isSet flags (show brownout.toNat = 2 ^ 25 from rfl),
    has_iff_isSet flags (show independentWatchdog.toNat = 2 ^ 29 from rfl),
    has_iff_isSet flags (show windowWatchdog.toNat = 2 ^ 30 from rfl),
    has_iff_isSet flags (show software.toNat = 2 ^ 28 from rfl),
    has_iff_isSet flags (show lowPower.toNat = 2 ^ 31 from rfl),
    has_iff_isSet flags (show pin.toNat = 2 ^ 26 from rfl)]

/-- Which cause some flags tell. Each cause has its bits and gives way to the bits of the more
telling ones; bit 31 tells nothing of its own and still hides the pin. -/
structure Decodes (isSet : Nat → Prop) (cause : ResetCause) : Prop where
  powerOn : cause = .powerOn ↔ isSet 27
  brownout : cause = .brownout ↔ ¬isSet 27 ∧ isSet 25
  watchdog : cause = .watchdog ↔ ¬isSet 27 ∧ ¬isSet 25 ∧ (isSet 29 ∨ isSet 30)
  software : cause = .software ↔
    ¬isSet 27 ∧ ¬isSet 25 ∧ ¬isSet 29 ∧ ¬isSet 30 ∧ isSet 28
  pin : cause = .pin ↔
    ¬isSet 27 ∧ ¬isSet 25 ∧ ¬isSet 29 ∧ ¬isSet 30 ∧ ¬isSet 28 ∧ ¬isSet 31 ∧ isSet 26
  unknown : cause = .unknown ↔
    ¬isSet 27 ∧ ¬isSet 25 ∧ ¬isSet 29 ∧ ¬isSet 30 ∧ ¬isSet 28 ∧ (isSet 31 ∨ ¬isSet 26)
  /-- The flags never tell of a debugger. -/
  debug : cause ≠ .debug

theorem decodes_cause (flags : UInt32) : Decodes (IsSet flags) (cause flags) := by
  -- One case for each test that may be the first to succeed, and one for none.
  rw [cause_eq]
  split_ifs <;> constructor <;> grind

end BoardSupport.Board.ResetFlags
