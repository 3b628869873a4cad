/-
This file compares codes with percentages. Any word is taken for a code here, also one
that stands for no percentage. Decoding rounds the fraction of a code up to a percentage
and encoding rounds a percentage down to a fraction, so that the two are adjoint: the
percentage of a code is at most some percentage below full load exactly if the upper half
of the code is at most that of the code of this percentage. All that lies above full load
is capped, which no percentage below full load can tell. That decoding is monotone, and
that it finds the least percentage whose fraction is large enough, follow from this.
-/

import Mathlib.Order.Bounds.Defs
import BoardSupport.Proofs.Load.Codec

namespace BoardSupport.LoadCode

/-! ### The two roundings -/

/-- Decoding rounds up: a percentage is large enough if it is so before the division. -/
theorem decode_le_iff (code percent : UInt32) :
    decode code ≤ percent ↔ (upperFraction code).toNat * 100 ≤ 4096 * percent.toNat := by
  rw [UInt32.le_iff_toNat_le, toNat_decode]
  omega

/-- Encoding rounds down: a fraction is small enough if it is so before the division. -/
theorem le_fraction_iff {percent : UInt32} (bounded : percent.toNat ≤ 100) (part : UInt32) :
    part ≤ fraction percent ↔ part.toNat * 100 ≤ 4096 * percent.toNat := by
  rw [UInt32.le_iff_toNat_le, toNat_fraction bounded]
  exact Nat.le_div_iff_mul_le (by decide)

/-- A bound below the full fraction does not see the cap. -/
theorem upperFraction_le_iff (code : UInt32) {bound : UInt32} (short : bound.toNat < 4096) :
    upperFraction code ≤ bound ↔ code >>> 12 ≤ bound := by
  rw [UInt32.le_iff_toNat_le, UInt32.le_iff_toNat_le, toNat_upperFraction, toNat_upperHalf]
  omega

/-- Below full load the upper half of the code of a percentage is its fraction. -/
theorem upperHalf_ofPercent {percent : UInt32} (below : percent.toNat < 100) :
    ofPercent percent >>> 12 = fraction percent := by
  rw [← UInt32.toNat_inj, toNat_upperHalf, toNat_ofPercent_div (Nat.le_of_lt below),
    Nat.div_eq_of_lt (toNat_fraction_lt below), Nat.zero_or]

/-- Decoding and encoding are adjoint below full load. -/
theorem decode_le_iff_upperHalf_le (code : UInt32) {percent : UInt32}
    (below : percent.toNat < 100) :
    decode code ≤ percent ↔ code >>> 12 ≤ ofPercent percent >>> 12 := by
  calc decode code ≤ percent
    _ ↔ (upperFraction code).toNat * 100 ≤ 4096 * percent.toNat := decode_le_iff code percent
    _ ↔ upperFraction code ≤ fraction percent :=
      (le_fraction_iff (Nat.le_of_lt below) (upperFraction code)).symm
    _ ↔ code >>> 12 ≤ fraction percent := upperFraction_le_iff code (toNat_fraction_lt below)
    _ ↔ code >>> 12 ≤ ofPercent percent >>> 12 := by rw [upperHalf_ofPercent below]

/-! ### All words as codes -/

/-- No step of decoding leaves the word. -/
structure DecodesWithinWord (code : UInt32) : Prop where
  product : (upperFraction code).toNat * Settings.fullLoad.toNat < UInt32.size
  sum : (upperFraction code * Settings.fullLoad).toNat + (fullFraction - 1).toNat < UInt32.size

theorem decodesWithinWord (code : UInt32) : DecodesWithinWord code := by
  have capped := toNat_upperFraction_le code
  have width : UInt32.size = 4294967296 := rfl
  have product : (upperFraction code).toNat * Settings.fullLoad.toNat < UInt32.size := by
    rw [Settings.toNat_fullLoad, width]
    omega
  have rest : (fullFraction - 1).toNat = 4095 := rfl
  refine ⟨product, ?_⟩
  rw [UInt32.toNat_mul, Nat.mod_eq_of_lt product, Settings.toNat_fullLoad, rest, width]
  omega

theorem decode_le_fullLoad (code : UInt32) : decode code ≤ Settings.fullLoad := by
  have capped := toNat_upperFraction_le code
  rw [decode_le_iff, Settings.toNat_fullLoad]
  omega

/-- The code of a percentage carries at least what a code carries in its upper half. -/
def Covers (percent code : UInt32) : Prop :=
  ∃ encoded, encode percent = .ok encoded ∧ code >>> 12 ≤ encoded >>> 12

theorem toNat_lt_of_lt_fullLoad {percent : UInt32} (below : percent < Settings.fullLoad) :
    percent.toNat < 100 := UInt32.lt_iff_toNat_lt.mp below

theorem decode_le_iff_covers (code : UInt32) {percent : UInt32}
    (below : percent < Settings.fullLoad) : decode code ≤ percent ↔ Covers percent code := by
  have adjoint := decode_le_iff_upperHalf_le code (toNat_lt_of_lt_fullLoad below)
  constructor
  · exact fun most => ⟨ofPercent percent, encode_of_le (UInt32.le_of_lt below), adjoint.mp most⟩
  · rintro ⟨encoded, same, covered⟩
    cases (encode_of_le (UInt32.le_of_lt below)).symm.trans same
    exact adjoint.mpr covered

theorem eq_or_lt_fullLoad {percent : UInt32} (bounded : percent ≤ Settings.fullLoad) :
    percent = Settings.fullLoad ∨ percent < Settings.fullLoad := by
  rw [UInt32.le_iff_toNat_le] at bounded
  rw [UInt32.lt_iff_toNat_lt, ← UInt32.toNat_inj]
  omega

/-- A larger code is not covered by less, so it has no smaller percentage. -/
theorem decode_mono {code larger : UInt32} (le : code ≤ larger) : decode code ≤ decode larger := by
  rcases eq_or_lt_fullLoad (decode_le_fullLoad larger) with full | below
  · rw [full]
    exact decode_le_fullLoad code
  · obtain ⟨encoded, same, covered⟩ := (decode_le_iff_covers larger below).mp (UInt32.le_refl _)
    have halves : code >>> 12 ≤ larger >>> 12 := by
      rw [UInt32.le_iff_toNat_le] at le ⊢
      rw [toNat_upperHalf, toNat_upperHalf]
      exact Nat.div_le_div_right le
    exact (decode_le_iff_covers code below).mpr ⟨encoded, same, UInt32.le_trans halves covered⟩

/-- The percentage of a code is the least one below full load that covers it, or full load if there
is none. -/
theorem isLeast_decode (code : UInt32) :
    IsLeast {percent | percent < Settings.fullLoad ∧ Covers percent code ∨
      percent = Settings.fullLoad} (decode code) := by
  constructor
  · rcases eq_or_lt_fullLoad (decode_le_fullLoad code) with full | below
    · exact .inr full
    · exact .inl ⟨below, (decode_le_iff_covers code below).mp (UInt32.le_refl _)⟩
  · rintro percent (⟨below, covers⟩ | rfl)
    · exact (decode_le_iff_covers code below).mpr covers
    · exact decode_le_fullLoad code

theorem roundTrip_of_le {percent : UInt32} (bounded : percent ≤ Settings.fullLoad) :
    roundTrip percent = .ok percent := by
  have small : percent.toNat ≤ 100 := UInt32.le_iff_toNat_le.mp bounded
  rw [roundTrip, encode_of_le bounded]
  exact congrArg Except.ok (decode_ofPercent small)

/-- Decoding and encoding are a Galois pair on all words. A code decodes to at most some percentage
below full load exactly if the upper half of the code is at most that of the code of the percentage;
no code decodes to more than full load, and none overflows the word on the way. So a larger code
never decodes to less, every percentage up to full load comes back from its code, and a code decodes
to the least percentage whose code covers it. -/
theorem decode_adjoint_encode :
    (∀ code percent, percent < Settings.fullLoad →
      ∃ encoded, encode percent = .ok encoded ∧
        (decode code ≤ percent ↔ code >>> 12 ≤ encoded >>> 12)) ∧
    (∀ code, decode code ≤ Settings.fullLoad ∧ DecodesWithinWord code) ∧
    (∀ code larger, code ≤ larger → decode code ≤ decode larger) ∧
    (∀ percent, percent ≤ Settings.fullLoad → roundTrip percent = .ok percent) ∧
    ∀ code, IsLeast {percent | percent < Settings.fullLoad ∧ Covers percent code ∨
      percent = Settings.fullLoad} (decode code) := by
  refine ⟨?_, ?_, ?_, ?_, isLeast_decode⟩
  · intro code percent below
    exact ⟨ofPercent percent, encode_of_le (UInt32.le_of_lt below),
      decode_le_iff_upperHalf_le code (toNat_lt_of_lt_fullLoad below)⟩
  · exact fun code => ⟨decode_le_fullLoad code, decodesWithinWord code⟩
  · exact fun code larger le => decode_mono le
  · exact fun percent bounded => roundTrip_of_le bounded

/-- A code one part above that of one percent lies between two codes of percentages, and decodes to
the larger of the two. -/
theorem decode_adjoint_encode_between :
    ((1 : UInt32) < Settings.fullLoad ∧ (2 : UInt32) < Settings.fullLoad) ∧
      ofPercent 1 >>> 12 < (0x29000 : UInt32) >>> 12 ∧
      (0x29000 : UInt32) >>> 12 < ofPercent 2 >>> 12 ∧
      ¬ decode 0x29000 ≤ 1 ∧ decode 0x29000 ≤ 2 := by
  obtain ⟨lower, lowerSame, above⟩ := decode_adjoint_encode.1 0x29000 1 (by decide)
  obtain ⟨upper, upperSame, below⟩ := decode_adjoint_encode.1 0x29000 2 (by decide)
  rw [encode_of_le (by decide)] at lowerSame upperSame
  cases lowerSame
  cases upperSame
  exact ⟨by decide, by decide, by decide, mt above.mp (by decide), below.mpr (by decide)⟩

end BoardSupport.LoadCode
