/-
This file holds the code under which a processor load is published. A load is
a fraction of twelve bits, written twice so that it reads like a sample of a
24-bit converter: percentage `p` becomes `f = 0x1000 * p / 100` in the bits
from 12 upwards and once more below. Full load has `f = 0x1000`, whose upper
copy reaches bit 24 (`0x1001000`). The fraction is rounded down on the way in
and the percentage up on the way out, so that every percentage up to 100 comes
back.
-/

import BoardSupport.Settings

namespace BoardSupport.LoadCode

/-- The fraction that stands for full load. -/
def fullFraction : UInt32 := 0x1000

inductive EncodeError
  /-- The percentage times the full fraction does not fit into 32 bits. -/
  | productOverflow
  deriving DecidableEq, Repr

def EncodeError.message : EncodeError → String
  | .productOverflow => "attempt to multiply with overflow"

/-- The fraction of a percentage, rounded down. -/
def fraction (percent : UInt32) : UInt32 :=
  fullFraction * percent / Settings.fullLoad

/-- The code of a percentage whose product with the full fraction fits into 32 bits. -/
def ofPercent (percent : UInt32) : UInt32 :=
  fraction percent ||| (fraction percent <<< 12)

/-- The code of a percentage. Percentages beyond one hundred have codes too, until the scaling
no longer fits. -/
def encode (percent : UInt32) : Except EncodeError UInt32 :=
  if fullFraction.toNat * percent.toNat < UInt32.size then .ok (ofPercent percent)
  else .error .productOverflow

/-- The fraction that a code carries in its upper copy, capped at full load. -/
def upperFraction (code : UInt32) : UInt32 :=
  min (code >>> 12) fullFraction

/-- The percentage of a code, rounded up. -/
def decode (code : UInt32) : UInt32 :=
  (upperFraction code * Settings.fullLoad + (fullFraction - 1)) / fullFraction

/-- The percentage that is read back from the code of a percentage. -/
def roundTrip (percent : UInt32) : Except EncodeError UInt32 :=
  (encode percent).map decode

theorem ofPercent_zero : ofPercent 0 = 0 := by decide

theorem ofPercent_full : ofPercent Settings.fullLoad = 0x1001000 := by decide

theorem encode_eq_ok {percent : UInt32} (fits : percent.toNat < 0x100000) :
    encode percent = .ok (ofPercent percent) := by
  have full : fullFraction.toNat = 4096 := rfl
  have width : UInt32.size = 4294967296 := rfl
  unfold encode
  rw [if_pos (by rw [full, width]; omega)]

end BoardSupport.LoadCode
