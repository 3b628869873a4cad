/-
This file reads the code of a load in unbounded numbers. The two copies of a
fraction lie side by side as long as the fraction is below one, so that the code
has two equal halves; the full fraction reaches into its own upper copy, and the
cap on the way back takes that out again. Rounding down on the way in loses less
than one part in `0x1000`, which is less than a percent, so rounding up on the way
out finds the percentage again.
-/

import BoardSupport.Load.Code

namespace BoardSupport

theorem Settings.toNat_fullLoad : Settings.fullLoad.toNat = 100 := rfl

namespace LoadCode

theorem toNat_fullFraction : fullFraction.toNat = 4096 := rfl

/-! ### The fraction of a percentage -/

theorem toNat_fraction {percent : UInt32} (bounded : percent.toNat ≤ 100) :
    (fraction percent).toNat = 4096 * percent.toNat / 100 := by
  have product : (fullFraction * percent).toNat = 4096 * percent.toNat := by
    rw [UInt32.toNat_mul, toNat_fullFraction]
    omega
  rw [fraction, UInt32.toNat_div, product, Settings.toNat_fullLoad]

theorem toNat_fraction_le {percent : UInt32} (bounded : percent.toNat ≤ 100) :
    (fraction percent).toNat ≤ 4096 := by
  rw [toNat_fraction bounded]
  omega

theorem toNat_fraction_lt {percent : UInt32} (below : percent.toNat < 100) :
    (fraction percent).toNat < 4096 := by
  rw [toNat_fraction (Nat.le_of_lt below)]
  omega

/-! ### The two copies in a code -/

/-- The code of a percentage in unbounded numbers: the upper copy does not leave the word. -/
theorem toNat_ofPercent {percent : UInt32} (bounded : percent.toNat ≤ 100) :
    (ofPercent percent).toNat =
      (fraction percent).toNat ||| (fraction percent).toNat <<< 12 := by
  have narrow := toNat_fraction_le bounded
  have upper : (fraction percent <<< 12).toNat = (fraction percent).toNat <<< 12 := by
    rw [UInt32.toNat_shiftLeft]
    refine Nat.mod_eq_of_lt ?_
    show (fraction percent).toNat <<< 12 < 2 ^ 32
    rw [Nat.shiftLeft_eq]
    omega
  rw [ofPercent, UInt32.toNat_or, upper]

/-- What lies from bit 12 upwards in the code of a percentage: the fraction, and on top of it the
bit that the lower copy of the full fraction leaves there. -/
theorem toNat_ofPercent_div {percent : UInt32} (bounded : percent.toNat ≤ 100) :
    (ofPercent percent).toNat / 4096 =
      (fraction percent).toNat / 4096 ||| (fraction percent).toNat := by
  have halves : ∀ word : Nat, word / 4096 = word >>> 12 := fun word =>
    (Nat.shiftRight_eq_div_pow word 12).symm
  rw [toNat_ofPercent bounded, halves, halves, Nat.shiftRight_or_distrib,
    Nat.shiftLeft_shiftRight]

/-- What lies from bit 12 upwards in any code. -/
theorem toNat_upperHalf (code : UInt32) : (code >>> 12).toNat = code.toNat / 4096 := by
  rw [UInt32.toNat_shiftRight]
  exact Nat.shiftRight_eq_div_pow code.toNat 12

/-- What lies below bit 12 in any code. -/
theorem toNat_lowerHalf (code : UInt32) : (code &&& 0xFFF).toNat = code.toNat % 4096 := by
  rw [UInt32.toNat_and]
  exact Nat.and_two_pow_sub_one_eq_mod code.toNat 12

/-- A code of 24 bits whose upper twelve and lower twelve are the same. -/
structure Doubled (code : UInt32) : Prop where
  narrow : code < 0x1000000
  same : code &&& (0xFFF : UInt32) = code >>> 12

/-- Below full load the two copies of the fraction do not touch. -/
theorem doubled_ofPercent {percent : UInt32} (below : percent.toNat < 100) :
    Doubled (ofPercent percent) := by
  have bounded : percent.toNat ≤ 100 := Nat.le_of_lt below
  have short := toNat_fraction_lt below
  have apart : (ofPercent percent).toNat =
      (fraction percent).toNat * 4096 + (fraction percent).toNat := by
    rw [toNat_ofPercent bounded, Nat.or_comm, ← Nat.shiftLeft_add_eq_or_of_lt short,
      Nat.shiftLeft_eq]
  refine ⟨UInt32.lt_iff_toNat_lt.mpr ?_, UInt32.toNat_inj.mp ?_⟩
  · show (ofPercent percent).toNat < 16777216
    omega
  · rw [toNat_lowerHalf, toNat_upperHalf, apart]
    omega

/-- A code that stands for a percentage up to a hundred. -/
def Valid (code : UInt32) : Prop :=
  ∃ percent, percent ≤ Settings.fullLoad ∧ encode percent = .ok code

/-- Up to full load the scaling fits into the word. -/
theorem encode_of_le {percent : UInt32} (bounded : percent ≤ Settings.fullLoad) :
    encode percent = .ok (ofPercent percent) := by
  rw [UInt32.le_iff_toNat_le, Settings.toNat_fullLoad] at bounded
  exact encode_eq_ok (by omega)

/-- A percentage that has a code has been scaled without loss. -/
theorem fits_of_encode {percent code : UInt32} (encoded : encode percent = .ok code) :
    fullFraction.toNat * percent.toNat < UInt32.size := by
  by_cases fits : fullFraction.toNat * percent.toNat < UInt32.size
  · exact fits
  · rw [encode, if_neg fits] at encoded
    cases encoded

theorem valid_ofPercent {percent : UInt32} (bounded : percent ≤ Settings.fullLoad) :
    Valid (ofPercent percent) := ⟨percent, bounded, encode_of_le bounded⟩

theorem valid_zero : Valid 0 := by
  rw [← ofPercent_zero]
  exact valid_ofPercent (by decide)

/-- A valid code is that of full load, or it has two equal halves. -/
theorem Valid.full_or_doubled {code : UInt32} (valid : Valid code) :
    code = 0x1001000 ∨ Doubled code := by
  obtain ⟨percent, bounded, encoded⟩ := valid
  rw [encode_of_le bounded] at encoded
  cases encoded
  rw [UInt32.le_iff_toNat_le, Settings.toNat_fullLoad] at bounded
  rcases Nat.lt_or_eq_of_le bounded with below | full
  · exact .inr (doubled_ofPercent below)
  · have whole : percent = Settings.fullLoad := UInt32.toNat_inj.mp full
    rw [whole]
    exact .inl ofPercent_full

/-! ### The percentage of a code -/

theorem toNat_upperFraction (code : UInt32) :
    (upperFraction code).toNat = min (code.toNat / 4096) 4096 := by
  rw [← toNat_upperHalf, ← toNat_fullFraction]
  show (if code >>> 12 ≤ fullFraction then code >>> 12 else fullFraction).toNat = _
  split
  · rename_i below
    exact (Nat.min_eq_left (UInt32.le_iff_toNat_le.mp below)).symm
  · rename_i above
    rw [UInt32.le_iff_toNat_le] at above
    exact (Nat.min_eq_right (Nat.le_of_not_le above)).symm

theorem toNat_upperFraction_le (code : UInt32) : (upperFraction code).toNat ≤ 4096 := by
  rw [toNat_upperFraction]
  exact Nat.min_le_right _ _

/-- The percentage of any code at all. -/
theorem toNat_decode (code : UInt32) :
    (decode code).toNat = ((upperFraction code).toNat * 100 + 4095) / 4096 := by
  have capped := toNat_upperFraction_le code
  have below : (fullFraction - 1).toNat = 4095 := rfl
  rw [decode, UInt32.toNat_div, UInt32.toNat_add, UInt32.toNat_mul, Settings.toNat_fullLoad,
    below, toNat_fullFraction]
  omega

/-! ### There and back -/

theorem upperFraction_ofPercent {percent : UInt32} (bounded : percent.toNat ≤ 100) :
    upperFraction (ofPercent percent) = fraction percent := by
  have narrow := toNat_fraction_le bounded
  rw [← UInt32.toNat_inj, toNat_upperFraction, toNat_ofPercent_div bounded]
  rcases Nat.lt_or_eq_of_le narrow with part | whole
  · rw [Nat.div_eq_of_lt part, Nat.zero_or, Nat.min_eq_left narrow]
  · rw [whole]
    rfl

/-- Every percentage up to a hundred comes back from its code. -/
theorem decode_ofPercent {percent : UInt32} (bounded : percent.toNat ≤ 100) :
    decode (ofPercent percent) = percent := by
  rw [← UInt32.toNat_inj, toNat_decode, upperFraction_ofPercent bounded, toNat_fraction bounded]
  omega

end LoadCode

end BoardSupport
