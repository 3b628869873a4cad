/-
This file says which requests for samples of the load are granted. The board's channel
gives exactly one sample; the channel of the processor gives one sample or none; and
the buffer must have room for what is asked. The two channels check this in different
ways, one by the shape of the request and the other by the range of processors that it
names, and they refuse with different faults. `sample_requests_answered` goes through
all requests, whatever their numbers and however long their buffers are.
-/

import BoardSupport.Monitor.Host

namespace BoardSupport

/-! ### Filling the slots of a request -/

namespace Device.ChannelTransfer

/-- A buffer whose first slots, those of the channels asked for, now hold a code. All other slots
are as they were. -/
structure FilledWith (before : ChannelTransfer) (code : UInt32) (after : ChannelTransfer) :
    Prop where
  channels : after.channels = before.channels
  length : after.samples.length = before.samples.length
  requested : ∀ position < before.channels.toNat, after.samples[position]? = some code
  others : ∀ position, before.channels.toNat ≤ position →
    after.samples[position]? = before.samples[position]?

theorem fill_of_short (transfer : ChannelTransfer) (content : Nat → UInt32 → UInt32)
    (short : transfer.samples.length < transfer.channels.toNat) :
    transfer.fill content = none := by
  rw [fill, requested, if_neg (Nat.not_le.mpr short), Option.map_none]

theorem fill_of_room (transfer : ChannelTransfer) (code : UInt32)
    (room : transfer.channels.toNat ≤ transfer.samples.length) :
    ∃ filled, transfer.fill (fun _ _ => code) = some filled ∧
      transfer.FilledWith code filled := by
  have taken : (transfer.samples.take transfer.channels.toNat).length =
      transfer.channels.toNat := List.length_take_of_le room
  have fills : transfer.fill (fun _ _ => code) = some
      { transfer with
        samples := (transfer.samples.take transfer.channels.toNat).mapIdx (fun _ _ => code) ++
          transfer.samples.drop transfer.channels.toNat } := by
    rw [fill, requested, if_pos room, Option.map_some]
  refine ⟨_, fills, rfl, ?_, ?_, ?_⟩
  · rw [List.length_append, List.length_mapIdx, taken, List.length_drop]
    omega
  · intro position within
    rw [List.getElem?_append_left (by rw [List.length_mapIdx, taken]; exact within),
      List.getElem?_mapIdx, List.getElem?_eq_getElem (by rw [taken]; exact within),
      Option.map_some]
  · intro position beyond
    rw [List.getElem?_append_right (by rw [List.length_mapIdx, taken]; exact beyond),
      List.length_mapIdx, taken, List.getElem?_drop, Nat.add_sub_cancel' beyond]

end Device.ChannelTransfer

namespace Monitor

open Device (Argument ChannelTransfer Invocation)

variable {v : Vocabulary} {Handle : Type}

/-! ### The requests that are granted -/

/-- The requests for samples of the load that are granted: one sample at the channel of the board,
and at the channel of the processor one sample or none, each with room in the buffer. -/
def GrantsRead (subsystem subchannel : UInt16) : Argument → Prop
  | .channels transfer =>
    (subsystem = aggregateSubsystem ∧ subchannel = loadSubchannel ∧ transfer.channels = 1 ∧
      1 ≤ transfer.samples.length) ∨
    (subsystem = processorSubsystem ∧ subchannel = loadSubchannel ∧ transfer.channels ≤ 1 ∧
      transfer.channels.toNat ≤ transfer.samples.length)
  | _ => False

/-- A request for samples of the load. -/
def readRequest (subsystem subchannel : UInt16) (argument : Argument) : Invocation :=
  ⟨Device.Command.analogRead.code, subsystem, subchannel, argument⟩

/-- The fault with which requests for samples are refused. -/
def readFault (subsystem : UInt16) : Fault :=
  if subsystem = processorSubsystem then .failed else .notImplemented

theorem aggregateRead_of_granted (monitor : Monitor Handle) (subchannel : UInt16)
    (transfer : ChannelTransfer)
    (granted : GrantsRead aggregateSubsystem subchannel (.channels transfer)) :
    ∃ filled, monitor.aggregateRead subchannel (.channels transfer) =
        .answer (.ok 0) (.channels filled) ∧
      transfer.FilledWith monitor.averageLoad filled := by
  rcases granted with ⟨-, first, one, room⟩ | ⟨other, -⟩
  · obtain ⟨filled, fills, filledWith⟩ :=
      transfer.fill_of_room monitor.averageLoad (by rw [one]; exact room)
    exact ⟨filled, by simp only [aggregateRead, one, first, and_self, if_true, fills], filledWith⟩
  · exact absurd other (by decide)

theorem aggregateRead_of_refused (monitor : Monitor Handle) (subchannel : UInt16)
    (argument : Argument) (refused : ¬ GrantsRead aggregateSubsystem subchannel argument) :
    monitor.aggregateRead subchannel argument = .answer (.error .notImplemented) argument := by
  cases argument with
  | channels transfer =>
    by_cases shape : transfer.channels = 1 ∧ subchannel = loadSubchannel
    · have short : transfer.samples.length < transfer.channels.toNat := by
        rw [shape.1]
        exact Nat.lt_of_not_le fun room => refused (.inl ⟨rfl, shape.2, shape.1, room⟩)
      simp only [aggregateRead, shape, and_self, if_true, transfer.fill_of_short _ short]
    · simp only [aggregateRead, shape, if_false]
  | _ => rfl

/-- The range of processors that a request names lies among those there are exactly if it begins at
the first one and is for at most one. -/
theorem processors_in_range (subchannel : UInt16) (channels : UInt32) :
    (subchannel.toNat < Settings.processorCount ∧
        subchannel.toNat + channels.toNat ≤ Settings.processorCount) ↔
      subchannel = loadSubchannel ∧ channels ≤ 1 := by
  have first : loadSubchannel.toNat = 0 := rfl
  have one : (1 : UInt32).toNat = 1 := rfl
  rw [← UInt16.toNat_inj, UInt32.le_iff_toNat_le, first, one, Settings.processorCount]
  omega

theorem processorRead_of_granted (monitor : Monitor Handle) (subchannel : UInt16)
    (transfer : ChannelTransfer)
    (granted : GrantsRead processorSubsystem subchannel (.channels transfer)) :
    ∃ filled, monitor.processorRead subchannel (.channels transfer) =
        .answer (.ok 0) (.channels filled) ∧
      transfer.FilledWith monitor.averageLoad filled := by
  rcases granted with ⟨other, -⟩ | ⟨-, first, narrow, room⟩
  · exact absurd other (by decide)
  · obtain ⟨filled, fills, filledWith⟩ := transfer.fill_of_room monitor.averageLoad room
    have inRange := (processors_in_range subchannel transfer.channels).mpr ⟨first, narrow⟩
    exact ⟨filled, by simp only [processorRead, if_pos inRange, fills], filledWith⟩

theorem processorRead_of_refused (monitor : Monitor Handle) (subchannel : UInt16)
    (argument : Argument) (refused : ¬ GrantsRead processorSubsystem subchannel argument) :
    monitor.processorRead subchannel argument = .answer (.error .failed) argument := by
  cases argument with
  | channels transfer =>
    by_cases inRange : subchannel.toNat < Settings.processorCount ∧
        subchannel.toNat + transfer.channels.toNat ≤ Settings.processorCount
    · obtain ⟨first, narrow⟩ := (processors_in_range subchannel transfer.channels).mp inRange
      have short : transfer.samples.length < transfer.channels.toNat :=
        Nat.lt_of_not_le fun room => refused (.inr ⟨rfl, first, narrow, room⟩)
      simp only [processorRead, if_pos inRange, transfer.fill_of_short _ short]
    · simp only [processorRead, if_neg inRange]
  | _ => rfl

/-! ### Judging a request -/

theorem judge_readRequest_aggregate (monitor : Monitor Handle) (subchannel : UInt16)
    (argument : Argument) :
    monitor.judge (readRequest aggregateSubsystem subchannel argument) =
      monitor.aggregateRead subchannel argument := by
  rw [judge, readRequest, Device.Command.ofCode?_code]
  rfl

theorem judge_readRequest_processor (monitor : Monitor Handle) (subchannel : UInt16)
    (argument : Argument) :
    monitor.judge (readRequest processorSubsystem subchannel argument) =
      monitor.processorRead subchannel argument := by
  rw [judge, readRequest, Device.Command.ofCode?_code]
  rfl

theorem judge_readRequest_of_granted (monitor : Monitor Handle) (subsystem subchannel : UInt16)
    (transfer : ChannelTransfer) (granted : GrantsRead subsystem subchannel (.channels transfer)) :
    ∃ filled, monitor.judge (readRequest subsystem subchannel (.channels transfer)) =
        .answer (.ok 0) (.channels filled) ∧
      transfer.FilledWith monitor.averageLoad filled := by
  have route : subsystem = aggregateSubsystem ∨ subsystem = processorSubsystem :=
    granted.imp And.left And.left
  rcases route with rfl | rfl
  · rw [judge_readRequest_aggregate]
    exact monitor.aggregateRead_of_granted subchannel transfer granted
  · rw [judge_readRequest_processor]
    exact monitor.processorRead_of_granted subchannel transfer granted

theorem judge_readRequest_of_refused (monitor : Monitor Handle) (subsystem subchannel : UInt16)
    (argument : Argument) (refused : ¬ GrantsRead subsystem subchannel argument) :
    monitor.judge (readRequest subsystem subchannel argument) =
      .answer (.error (readFault subsystem)) argument := by
  by_cases board : subsystem = aggregateSubsystem
  · subst board
    rw [judge_readRequest_aggregate]
    exact monitor.aggregateRead_of_refused subchannel argument refused
  · by_cases processor : subsystem = processorSubsystem
    · subst processor
      rw [judge_readRequest_processor]
      exact monitor.processorRead_of_refused subchannel argument refused
    · rw [judge, readRequest, Device.Command.ofCode?_code]
      simp only [if_neg board, if_neg processor, readFault]

/-- Requests for samples are answered exactly as they should be, whatever the monitor does, and
touch nothing else. The status is zero exactly for the requests that are granted; then the slots
asked for hold the load, and every other slot is as it was. Any other request, also one whose
argument is no buffer, gets its argument back as it was, with a failure from the channel of the
processor and as not implemented from everywhere else. No request changes the monitor or reaches the
host. -/
theorem sample_requests_answered (host : Host v) (session : Session v)
    (subsystem subchannel : UInt16) (argument : Argument) :
    let answer := session.command host (readRequest subsystem subchannel argument)
    answer.2 = session ∧
      (answer.1.status = 0 ↔ GrantsRead subsystem subchannel argument) ∧
      (∀ transfer, argument = .channels transfer → GrantsRead subsystem subchannel argument →
        ∃ filled, answer.1.argument = .channels filled ∧
          transfer.FilledWith session.monitor.averageLoad filled) ∧
      (¬ GrantsRead subsystem subchannel argument →
        answer.1 = ⟨if subsystem = processorSubsystem then -1 else -27, argument⟩) := by
  intro answer
  by_cases granted : GrantsRead subsystem subchannel argument
  · cases argument with
    | channels transfer =>
      obtain ⟨filled, judged, filledWith⟩ :=
        session.monitor.judge_readRequest_of_granted subsystem subchannel transfer granted
      have answered : answer = (⟨statusWord (.ok 0), .channels filled⟩, session) := by
        simp only [answer, Session.command, judged]
      rw [answered]
      refine ⟨rfl, ⟨fun _ => granted, fun _ => statusWord_zero⟩, ?_, fun no => absurd granted no⟩
      rintro other same -
      cases same
      exact ⟨filled, rfl, filledWith⟩
    | _ => exact granted.elim
  · have judged :=
      session.monitor.judge_readRequest_of_refused subsystem subchannel argument granted
    have answered : answer = (⟨(readFault subsystem).code, argument⟩, session) := by
      simp only [answer, Session.command, judged, statusWord_error]
    have word :
        (readFault subsystem).code = if subsystem = processorSubsystem then -1 else -27 := by
      rw [readFault]
      split <;> rfl
    rw [answered, word]
    refine ⟨rfl, ⟨fun zero => ?_, fun yes => absurd yes granted⟩, fun _ _ yes => absurd yes granted,
      fun _ => rfl⟩
    dsimp only at zero
    split at zero <;> exact absurd zero (by decide)

end Monitor

end BoardSupport
