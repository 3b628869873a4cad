/-
This file holds the board's one place for a task. A task is known by its
handle, a number that grows with every request for a place, granted or not;
giving back a handle empties the slot only if the task placed under that very
handle is still in it, so that an old handle cannot remove a newer task.
-/

import BoardSupport.Status

namespace BoardSupport.Board

/-- The place for a task, and the last handle given out. -/
structure TaskSlot (Job : Type) where
  holder : Option (UInt32 × Job)
  generation : UInt32

namespace TaskSlot

variable {Job : Type}

def unused : TaskSlot Job := ⟨none, 0⟩

/-- Place a task, and answer its handle. A slot that is taken refuses; the handle is used up all the
same. -/
def place (slot : TaskSlot Job) (job : Job) : Except Fault UInt32 × TaskSlot Job :=
  let handle := slot.generation + 1
  match slot.holder with
  | none => (.ok handle, ⟨some (handle, job), handle⟩)
  | some _ => (.error .failed, { slot with generation := handle })

/-- Empty the slot if it holds the task of a handle. -/
def release (slot : TaskSlot Job) (handle : UInt32) : TaskSlot Job :=
  match slot.holder with
  | some (held, _) => if held = handle then { slot with holder := none } else slot
  | none => slot

theorem place_of_empty (slot : TaskSlot Job) (job : Job) (empty : slot.holder = none) :
    slot.place job =
      (.ok (slot.generation + 1), ⟨some (slot.generation + 1, job), slot.generation + 1⟩) := by
  simp [place, empty]

theorem place_of_taken (slot : TaskSlot Job) (job : Job) {entry : UInt32 × Job}
    (taken : slot.holder = some entry) :
    slot.place job = (.error .failed, { slot with generation := slot.generation + 1 }) := by
  simp [place, taken]

theorem release_of_held (slot : TaskSlot Job) (handle : UInt32) (job : Job)
    (held : slot.holder = some (handle, job)) :
    slot.release handle = { slot with holder := none } := by
  simp [release, held]

theorem release_of_empty (slot : TaskSlot Job) (handle : UInt32) (empty : slot.holder = none) :
    slot.release handle = slot := by
  simp [release, empty]

theorem release_of_other (slot : TaskSlot Job) (handle : UInt32)
    (other : ∀ job, slot.holder ≠ some (handle, job)) : slot.release handle = slot := by
  unfold release
  split
  · rename_i held job holder
    rw [if_neg]
    rintro rfl
    exact other job holder
  · rfl

end TaskSlot

end BoardSupport.Board
