/-
This file holds a ledger of the board's slot. A handle is the number of a request for a
place, granted or not, modulo the width of the counter. The ledger numbers the requests
without a bound, keeps every granted one, and remembers whose task is in the slot,
while the slot itself knows a task by nothing but its handle. As long as the counter has
not come round the two agree: no handle is granted twice, and giving back a handle
empties the slot exactly if the task granted under it is still there.
-/

import Mathlib.Algebra.Group.Nat.Defs
import Mathlib.Data.List.Nodup
import BoardSupport.Board.TaskSlot

namespace BoardSupport.Board

/-! ### Requests to the slot -/

namespace TaskSlot

variable {Job : Type}

inductive Request (Job : Type)
  | place (job : Job)
  | release (handle : UInt32)

def serve (slot : TaskSlot Job) : Request Job → TaskSlot Job
  | .place job => (slot.place job).2
  | .release handle => slot.release handle

/-- A place is granted exactly if the slot is empty; otherwise the task in it stays there. -/
structure Places (slot : TaskSlot Job) (job : Job) : Prop where
  granted_iff : (∃ handle, (slot.place job).1 = .ok handle) ↔ slot.holder = none
  granted : ∀ handle, (slot.place job).1 = .ok handle →
    (slot.place job).2.holder = some (handle, job)
  refused : ∀ fault, (slot.place job).1 = .error fault → (slot.place job).2.holder = slot.holder

theorem places (slot : TaskSlot Job) (job : Job) : slot.Places job := by
  cases holder : slot.holder with
  | none =>
    have placed := slot.place_of_empty job holder
    constructor <;> rw [placed]
    · exact ⟨fun _ => holder, fun _ => ⟨_, rfl⟩⟩
    · rintro handle ⟨⟩
      rfl
    · exact nofun
  | some entry =>
    have placed := slot.place_of_taken job holder
    constructor <;> rw [placed]
    · exact ⟨nofun, fun empty => nomatch holder.symm.trans empty⟩
    · exact nofun
    · exact fun _ _ => rfl

end TaskSlot

/-! ### The ledger -/

/-- A request for a place that was granted. -/
structure Grant (Job : Type) where
  /-- The number of the request, counted from one. -/
  request : Nat
  handle : UInt32
  job : Job

/-- What becomes of the requests to a slot. -/
structure Ledger (Job : Type) where
  /-- The requests for a place so far. -/
  requests : Nat
  /-- Newest first. -/
  grants : List (Grant Job)
  /-- Whose task is in the slot. -/
  occupant : Option (Grant Job)

namespace Ledger

variable {Job : Type}

def blank : Ledger Job := ⟨0, [], none⟩

/-- Enter what becomes of a request to a slot. The task of a granted request is in the slot from
then on, until the slot is found empty. -/
def enter (slot : TaskSlot Job) (ledger : Ledger Job) : TaskSlot.Request Job → Ledger Job
  | .place job =>
    let requests := ledger.requests + 1
    match (slot.place job).1 with
    | .ok handle =>
      let grant := ⟨requests, handle, job⟩
      ⟨requests, grant :: ledger.grants, some grant⟩
    | .error _ => { ledger with requests }
  | .release handle =>
    { ledger with
      occupant := if (slot.release handle).holder.isSome then ledger.occupant else none }

/-- The ledger and the slot say the same. -/
structure Agrees (ledger : Ledger Job) (slot : TaskSlot Job) : Prop where
  generation : slot.generation = .ofNat ledger.requests
  holder : slot.holder = ledger.occupant.map fun grant => (grant.handle, grant.job)
  occupant : ∀ grant, ledger.occupant = some grant → grant ∈ ledger.grants
  handles : ∀ grant ∈ ledger.grants,
    grant.handle = .ofNat grant.request ∧ grant.request ≤ ledger.requests
  ordered : ledger.grants.Pairwise fun newer older => older.request < newer.request

theorem agrees_blank : blank.Agrees (TaskSlot.unused : TaskSlot Job) where
  generation := rfl
  holder := rfl
  occupant := nofun
  handles := nofun
  ordered := .nil

theorem Agrees.enter {ledger : Ledger Job} {slot : TaskSlot Job} (agrees : ledger.Agrees slot)
    (request : TaskSlot.Request Job) :
    (ledger.enter slot request).Agrees (slot.serve request) := by
  have next : slot.generation + 1 = .ofNat (ledger.requests + 1) := by
    rw [agrees.generation, UInt32.ofNat_add]
    rfl
  have earlier : ∀ grant ∈ ledger.grants,
      grant.handle = .ofNat grant.request ∧ grant.request ≤ ledger.requests + 1 :=
    fun grant member => (agrees.handles grant member).imp_right Nat.le_succ_of_le
  cases request with
  | place job =>
    cases holder : slot.holder with
    | none =>
      simp only [Ledger.enter, TaskSlot.serve, slot.place_of_empty job holder]
      refine ⟨next, rfl, ?_, ?_, ?_⟩
      · rintro grant ⟨⟩
        exact List.mem_cons_self
      · exact List.forall_mem_cons.mpr ⟨⟨next, Nat.le_refl _⟩, earlier⟩
      · refine List.pairwise_cons.mpr ⟨fun grant member => ?_, agrees.ordered⟩
        exact Nat.lt_succ_of_le (agrees.handles grant member).2
    | some entry =>
      simp only [Ledger.enter, TaskSlot.serve, slot.place_of_taken job holder]
      exact ⟨next, agrees.holder, agrees.occupant, earlier, agrees.ordered⟩
  | release handle =>
    by_cases held : ∃ job, slot.holder = some (handle, job)
    · obtain ⟨job, held⟩ := held
      simp only [Ledger.enter, TaskSlot.serve, slot.release_of_held handle job held]
      exact ⟨agrees.generation, rfl, nofun, agrees.handles, agrees.ordered⟩
    · have other := slot.release_of_other handle (not_exists.mp held)
      simp only [Ledger.enter, TaskSlot.serve, other]
      refine ⟨agrees.generation, ?_, ?_, agrees.handles, agrees.ordered⟩
      · split
        · exact agrees.holder
        · rename_i empty
          exact Option.not_isSome_iff_eq_none.mp empty
      · split
        · exact agrees.occupant
        · exact nofun

/-- Grants are never taken back. -/
theorem grants_enter (ledger : Ledger Job) (slot : TaskSlot Job)
    (request : TaskSlot.Request Job) : ledger.grants ⊆ (ledger.enter slot request).grants := by
  cases request with
  | place job =>
    simp only [enter]
    split
    · exact List.subset_cons_self _ _
    · exact List.Subset.refl _
  | release handle => exact List.Subset.refl _

/-- As long as the counter has not come round, no handle is granted twice. -/
theorem Agrees.nodup {ledger : Ledger Job} {slot : TaskSlot Job} (agrees : ledger.Agrees slot)
    (few : ledger.requests < 2 ^ 32) : (ledger.grants.map Grant.handle).Nodup := by
  refine List.pairwise_map.mpr (agrees.ordered.imp_of_mem ?_)
  intro newer older memberNewer memberOlder before same
  obtain ⟨newerHandle, newerLe⟩ := agrees.handles newer memberNewer
  obtain ⟨olderHandle, olderLe⟩ := agrees.handles older memberOlder
  have numbers : newer.request = older.request := by
    rw [newerHandle, olderHandle, ← UInt32.toNat_inj,
      UInt32.toNat_ofNat_of_lt' (Nat.lt_of_le_of_lt newerLe few),
      UInt32.toNat_ofNat_of_lt' (Nat.lt_of_le_of_lt olderLe few)] at same
    exact same
  exact Nat.lt_irrefl _ (numbers ▸ before)

/-- Giving back a handle empties the slot if the task that was granted under it is still there, and
changes nothing otherwise. -/
structure Releases (ledger : Ledger Job) (slot : TaskSlot Job) (handle : UInt32) : Prop where
  present : ∀ grant ∈ ledger.grants, grant.handle = handle → ledger.occupant = some grant →
    slot.release handle = { slot with holder := none }
  gone : ∀ grant ∈ ledger.grants, grant.handle = handle → ledger.occupant ≠ some grant →
    slot.release handle = slot
  unissued : (∀ grant ∈ ledger.grants, grant.handle ≠ handle) → slot.release handle = slot

/-- Whoever is in the slot was granted the handle under which the slot holds a task. -/
theorem Agrees.occupant_of_held {ledger : Ledger Job} {slot : TaskSlot Job}
    (agrees : ledger.Agrees slot) {handle : UInt32} {job : Job}
    (held : slot.holder = some (handle, job)) :
    ∃ grant ∈ ledger.grants, grant.handle = handle ∧ grant.job = job ∧
      ledger.occupant = some grant := by
  have holder := agrees.holder
  rw [held] at holder
  cases present : ledger.occupant with
  | none =>
    rw [present] at holder
    cases holder
  | some grant =>
    rw [present] at holder
    cases holder
    exact ⟨grant, agrees.occupant grant present, rfl, rfl, rfl⟩

theorem Agrees.releases {ledger : Ledger Job} {slot : TaskSlot Job} (agrees : ledger.Agrees slot)
    (few : ledger.requests < 2 ^ 32) (handle : UInt32) : ledger.Releases slot handle where
  present grant _ same present := by
    have held := agrees.holder
    rw [present] at held
    exact slot.release_of_held handle grant.job (same ▸ held)
  gone grant member same absent := by
    refine slot.release_of_other handle fun job held => absent ?_
    obtain ⟨other, otherMember, otherSame, -, present⟩ := agrees.occupant_of_held held
    have one : grant = other :=
      List.inj_on_of_nodup_map (agrees.nodup few) member otherMember (same.trans otherSame.symm)
    rw [one, present]
  unissued unissued := by
    refine slot.release_of_other handle fun job held => ?_
    obtain ⟨grant, member, same, -, -⟩ := agrees.occupant_of_held held
    exact unissued grant member same

end Ledger

end BoardSupport.Board
