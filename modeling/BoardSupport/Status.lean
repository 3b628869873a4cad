/-
This file holds the outcome of a request to the board. A request either answers
a value or fails for one of two causes, and callers that only take one signed
word see the value itself or the negative code of the cause. The word is never
ambiguous: the code of a cause is negative, and a value that would read as
negative is reported as a failure.
-/

namespace BoardSupport

/-- Why a request was refused. -/
inductive Fault
  /-- The request was understood and could not be carried out. -/
  | failed
  /-- The request is unknown here, or reserved. -/
  | notImplemented
  deriving DecidableEq, Repr

namespace Fault

/-- The negative word that stands for a fault. -/
def code : Fault → Int32
  | .failed => -1
  | .notImplemented => -27

def message : Fault → String
  | .failed => "operation failed"
  | .notImplemented => "not implemented"

/-- The fault behind a negative word. Every word but the one reserved for unknown requests
counts as a plain failure. -/
def ofCode (word : Int32) : Fault :=
  if word = notImplemented.code then .notImplemented else .failed

end Fault

/-- The signed word for the outcome of a request: the value, or the code of the fault. A value
too large for a non-negative word is reported as a failure, since it would read as one. -/
def statusWord : Except Fault UInt32 → Int32
  | .ok value => if value < 0x80000000 then value.toInt32 else Fault.failed.code
  | .error fault => fault.code

theorem statusWord_error (fault : Fault) : statusWord (.error fault) = fault.code := rfl

theorem statusWord_zero : statusWord (.ok 0) = 0 := by decide

end BoardSupport
