/-
This file holds hardware on which a watchdog is rehearsed. It comes in four
kinds, which differ in the timeout that they keep when they are armed.
-/

import BoardSupport.Board.IndependentWatchdog
import BoardSupport.Watchdog.Trace

namespace BoardSupport.Watchdog

/-- The kinds of hardware, by the timeout that they keep. -/
inductive Keeping
  | nothing
  /-- Keeps any timeout up to a limit. -/
  | upTo (limit : UInt32)
  /-- Keeps what the independent watchdog of the board keeps. -/
  | independent
  /-- Keeps what the next entry of a script says, and nothing once the script is over. -/
  | scripted
  deriving DecidableEq, Repr

/-- The timeout kept, and what is left of the script. -/
def Keeping.keep (keeping : Keeping) (timeout : UInt32) (script : List UInt32) :
    UInt32 × List UInt32 :=
  match keeping with
  | nothing => (0, script)
  | upTo limit => (min timeout limit, script)
  | independent => (Board.IndependentWatchdog.keptTimeout timeout, script)
  | scripted => (script.headD 0, script.tail)

/-- Hardware of a kind. All it remembers is what is left of its script. -/
def Keeping.hardware (keeping : Keeping) : Hardware (List UInt32) where
  disable script := script
  enable := keeping.keep
  feed script := script

structure Rehearsed where
  watchdog : Watchdog
  hardware : Traced (List UInt32)

/-- Carry out one operation, or none, with a record of its own. -/
def Rehearsed.carryOut (keeping : Keeping) (operation : Option Operation)
    (rehearsed : Rehearsed) : Rehearsed :=
  let hardware := { rehearsed.hardware with requests := [] }
  match operation with
  | some operation =>
    let (watchdog, hardware) :=
      rehearsed.watchdog.perform keeping.hardware.traced operation hardware
    ⟨watchdog, hardware⟩
  | none => { rehearsed with hardware }

/-- Carry out operations one after the other, and answer every state on the way. -/
def Rehearsed.carryOutAll (keeping : Keeping) (rehearsed : Rehearsed) :
    List (Option Operation) → List Rehearsed
  | [] => []
  | operation :: rest =>
    let rehearsed := rehearsed.carryOut keeping operation
    rehearsed :: rehearsed.carryOutAll keeping rest

end BoardSupport.Watchdog
