/-
This file holds the watchdog as the flight software sees it: a timeout that can
be set at any time and a switch. The hardware behind it decides what timeout
it can really keep; a timeout of zero is its way to say that it was not armed,
and the switch then stays off. Setting a new timeout arms the hardware again
while the switch is on.
-/

import BoardSupport.Settings

namespace BoardSupport

namespace Watchdog

/-- What a watchdog asks of its hardware, whose own state is of type `State`. -/
structure Hardware (State : Type) where
  /-- Stop counting down, if the hardware can. -/
  disable : State → State
  /-- Arm with a timeout in milliseconds and answer the timeout that is kept, zero if none. -/
  enable : UInt32 → State → UInt32 × State
  feed : State → State

/-- What the flight software asks of a watchdog. -/
inductive Operation
  /-- Put the hardware into a known, disabled state. -/
  | reset
  | enable
  | disable
  /-- Feed the hardware, unless it is disabled. -/
  | service
  | setTimeout (milliseconds : UInt32)
  deriving DecidableEq, Repr

end Watchdog

structure Watchdog where
  /-- The timeout asked for, in milliseconds. -/
  timeout : UInt32
  enabled : Bool
  deriving DecidableEq, Repr

namespace Watchdog

variable {State : Type}

def fresh : Watchdog := ⟨Settings.longestTimeout, false⟩

def arm (hardware : Hardware State) (watchdog : Watchdog) (state : State) : Watchdog × State :=
  let (kept, state) := hardware.enable watchdog.timeout state
  ({ watchdog with enabled := kept ≠ 0 }, state)

def perform (hardware : Hardware State) (operation : Operation) (watchdog : Watchdog)
    (state : State) : Watchdog × State :=
  match operation with
  | .reset => (fresh, hardware.disable state)
  | .enable => watchdog.arm hardware state
  | .disable => ({ watchdog with enabled := false }, hardware.disable state)
  | .service => (watchdog, if watchdog.enabled then hardware.feed state else state)
  | .setTimeout milliseconds =>
    let watchdog := { watchdog with timeout := milliseconds }
    if watchdog.enabled then watchdog.arm hardware state else (watchdog, state)

end Watchdog

end BoardSupport
