/-
This file lets the hardware of a watchdog be watched. `Hardware.traced` keeps a
record of every request beside the hardware's own state and changes nothing
else.
-/

import BoardSupport.Watchdog.Timer

namespace BoardSupport.Watchdog

inductive Request
  | disable
  /-- Arm with a timeout; the second number is the timeout that was kept. -/
  | enable (timeout kept : UInt32)
  | feed
  deriving DecidableEq, Repr

/-- Hardware together with the requests made to it so far, newest first. -/
structure Traced (State : Type) where
  state : State
  requests : List Request

/-- The same hardware with a record of the requests. -/
def Hardware.traced {State : Type} (hardware : Hardware State) : Hardware (Traced State) where
  disable traced := ⟨hardware.disable traced.state, .disable :: traced.requests⟩
  enable timeout traced :=
    let (kept, state) := hardware.enable timeout traced.state
    (kept, ⟨state, .enable timeout kept :: traced.requests⟩)
  feed traced := ⟨hardware.feed traced.state, .feed :: traced.requests⟩

end BoardSupport.Watchdog
