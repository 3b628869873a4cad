/-
This file says what a raw command can do. Any word can arrive as a command, with any
subsystem and any argument, and the monitor judges it from its own state. Of all these
commands only one kind reaches the host or changes the monitor: the switch, with a
number, on the subsystem of the whole board. Every other command is answered, and a
refusal gives the argument back as it came. `Judged` lists what a verdict can be, and
what holds of all commands is read off that list.
-/

import BoardSupport.Proofs.Monitor.SampleRequests
import BoardSupport.Proofs.Monitor.Starting

namespace BoardSupport

/-- The numbers of names have sixteen bits. -/
theorem Device.NameTable.number_lt {table : NameTable} {name : String} {value : UInt32}
    (found : table.number name = .ok value) : value < 0x80000000 := by
  unfold number at found
  split at found
  · rename_i index _
    cases found
    have narrow : index.toNat < 2 ^ 16 := index.toNat_lt
    rw [UInt32.lt_iff_toNat_lt, UInt16.toNat_toUInt32]
    exact Nat.lt_trans narrow (by decide)
  · cases found

/-- A value below the sign bit is its own status. -/
theorem statusWord_nonneg {value : UInt32} (small : value < 0x80000000) :
    0 ≤ statusWord (.ok value) := by
  have below : value.toNat < 2 ^ 31 := UInt32.lt_iff_toNat_lt.mp small
  have same : value.toInt32.toInt = value.toNat := by
    rw [← Int32.toInt_toBitVec, UInt32.toBitVec_toInt32, BitVec.toInt_eq_toNat_of_lt]
    · rfl
    · show 2 * value.toNat < 2 ^ 32
      omega
  rw [statusWord, if_pos small, Int32.le_iff_toInt_le, same]
  exact Int.natCast_nonneg _

theorem Fault.code_cases (fault : Fault) : fault.code = -1 ∨ fault.code = -27 := by
  cases fault
  · exact .inl rfl
  · exact .inr rfl

namespace Monitor

open Device (Argument Command Invocation)

variable {v : Vocabulary} {Handle : Type}

/-! ### What a verdict can be -/

/-- A command that switches the monitor on or off. -/
def switchRequest (subchannel : UInt16) (value : UInt32) : Invocation :=
  ⟨Command.setRunning.code, aggregateSubsystem, subchannel, .number value⟩

/-- A question for the direction of a channel, with a slot for the answer. -/
def directionRequest (subchannel : UInt16) (slot : Device.Direction) : Invocation :=
  ⟨Command.queryDirection.code, aggregateSubsystem, subchannel, .direction slot⟩

/-- The verdicts that there can be on a command. -/
inductive Judged (invocation : Invocation) : Verdict → Prop
  | refused (fault : Fault) : Judged invocation (.answer (.error fault) invocation.argument)
  | valued {value : UInt32} (small : value < 0x80000000) :
    Judged invocation (.answer (.ok value) invocation.argument)
  | sampled {transfer filled : Device.ChannelTransfer}
    (given : invocation.argument = .channels transfer) :
    Judged invocation (.answer (.ok 0) (.channels filled))
  /-- Only the answer to that question goes into a direction slot. -/
  | directed {subchannel : UInt16} {slot : Device.Direction}
    (asked : invocation = directionRequest subchannel slot) :
    Judged invocation (.answer (.ok 0) (.direction .inputOnly))
  | switched {subchannel : UInt16} {value : UInt32}
    (asked : invocation = switchRequest subchannel value) :
    Judged invocation (.switch (value ≠ 0))

theorem judged_lookupIn (table : Device.NameTable) (invocation : Invocation) :
    Judged invocation (lookupIn table invocation.argument) := by
  unfold lookupIn
  split
  · rename_i name _
    cases found : table.number name with
    | error fault => exact .refused fault
    | ok value => exact .valued (Device.NameTable.number_lt found)
  · exact .refused .notImplemented

theorem judged_readRequest (monitor : Monitor Handle) (subsystem subchannel : UInt16)
    (argument : Argument) :
    Judged (readRequest subsystem subchannel argument)
      (monitor.judge (readRequest subsystem subchannel argument)) := by
  by_cases granted : GrantsRead subsystem subchannel argument
  · cases argument with
    | channels transfer =>
      obtain ⟨filled, judged, -⟩ :=
        monitor.judge_readRequest_of_granted subsystem subchannel transfer granted
      rw [judged]
      exact .sampled rfl
    | _ => exact granted.elim
  · rw [monitor.judge_readRequest_of_refused subsystem subchannel argument granted]
    exact .refused _

theorem judged_judgeAggregate (monitor : Monitor Handle) (command : Command) (subchannel : UInt16)
    (argument : Argument) (others : command ≠ .analogRead) :
    Judged ⟨command.code, aggregateSubsystem, subchannel, argument⟩
      (monitor.judgeAggregate command subchannel argument) := by
  cases command with
  | noop | analogNoop => exact .valued (by decide)
  | setRunning =>
    cases argument with
    | number value => exact .switched rfl
    | _ => exact .refused .notImplemented
  | getRunning =>
    refine .valued ?_
    split <;> decide
  | lookupSubsystem => exact judged_lookupIn subsystemNames _
  | lookupSubchannel => exact judged_lookupIn subchannelNames _
  | queryDirection =>
    cases argument with
    | direction slot => exact .directed rfl
    | _ => exact .refused .notImplemented
  | analogRead => exact absurd rfl others
  | setConfiguration | getConfiguration | analogWrite => exact .refused .notImplemented

theorem judged_judgeProcessor (monitor : Monitor Handle) (command : Command) (subchannel : UInt16)
    (argument : Argument) (others : command ≠ .analogRead) :
    Judged ⟨command.code, processorSubsystem, subchannel, argument⟩
      (monitor.judgeProcessor command subchannel argument) := by
  cases command with
  | noop | analogNoop => exact .valued (by decide)
  | analogRead => exact absurd rfl others
  | _ => exact .refused .notImplemented

/-- Every verdict is one of those. -/
theorem judged (monitor : Monitor Handle) (invocation : Invocation) :
    Judged invocation (monitor.judge invocation) := by
  obtain ⟨word, subsystem, subchannel, argument⟩ := invocation
  cases means : Command.ofCode? word with
  | none =>
    simp only [judge, means]
    exact .refused .notImplemented
  | some command =>
    obtain rfl := Command.code_of_ofCode? means
    by_cases read : command = .analogRead
    · rw [read]
      exact judged_readRequest monitor subsystem subchannel argument
    · simp only [judge, means]
      split
      · rename_i board
        rw [board]
        exact judged_judgeAggregate monitor command subchannel argument read
      · split
        · rename_i processor
          rw [processor]
          exact judged_judgeProcessor monitor command subchannel argument read
        · exact .refused .notImplemented

/-! ### Commands that no subsystem knows -/

theorem judge_of_unknown (monitor : Monitor Handle) (invocation : Invocation)
    (unknown : ∀ command : Command, command.code ≠ invocation.command) :
    monitor.judge invocation = .answer (.error .notImplemented) invocation.argument := by
  cases means : Command.ofCode? invocation.command with
  | none => simp only [judge, means]
  | some command => exact absurd (Command.code_of_ofCode? means) (unknown command)

theorem judge_of_beyond (monitor : Monitor Handle) (invocation : Invocation)
    (beyond : processorSubsystem < invocation.subsystem) :
    monitor.judge invocation = .answer (.error .notImplemented) invocation.argument := by
  have notProcessor : invocation.subsystem ≠ processorSubsystem :=
    (UInt16.ne_of_lt beyond).symm
  have notBoard : invocation.subsystem ≠ aggregateSubsystem := by
    intro board
    rw [board] at beyond
    exact absurd beyond (by decide)
  cases means : Command.ofCode? invocation.command with
  | none => simp only [judge, means]
  | some command => simp only [judge, means, if_neg notBoard, if_neg notProcessor]

/-- The commands that the subsystem of the single processors knows. -/
def processorCommands : List Command := [.noop, .analogNoop, .analogRead]

theorem judge_of_processor (monitor : Monitor Handle) (invocation : Invocation)
    (processor : invocation.subsystem = processorSubsystem)
    (others : ∀ command ∈ processorCommands, command.code ≠ invocation.command) :
    monitor.judge invocation = .answer (.error .notImplemented) invocation.argument := by
  cases means : Command.ofCode? invocation.command with
  | none => simp only [judge, means]
  | some command =>
    have word := Command.code_of_ofCode? means
    have other : command ∉ processorCommands := fun known => others command known word
    have notBoard : invocation.subsystem ≠ aggregateSubsystem := by
      rw [processor]
      decide
    simp only [judge, means, if_neg notBoard, if_pos processor]
    cases command with
    | noop | analogNoop | analogRead => exact absurd (by decide) other
    | _ => rfl

/-! ### What a command answers -/

theorem command_of_answer (host : Host v) (session : Session v) {invocation : Invocation}
    {result : Except Fault UInt32} {argument : Argument}
    (judged : session.monitor.judge invocation = .answer result argument) :
    session.command host invocation = (⟨statusWord result, argument⟩, session) := by
  simp only [Session.command, judged]

/-- A command that is no switch is answered, and nothing else happens. -/
theorem command_cases (host : Host v) (session : Session v) (invocation : Invocation) :
    (∃ subchannel value, invocation = switchRequest subchannel value) ∨
    ∃ result argument, Judged invocation (.answer result argument) ∧
      session.command host invocation = (⟨statusWord result, argument⟩, session) := by
  have judged := session.monitor.judged invocation
  cases verdict : session.monitor.judge invocation with
  | answer result argument =>
    rw [verdict] at judged
    exact .inr ⟨result, argument, judged, command_of_answer host session verdict⟩
  | switch up =>
    rw [verdict] at judged
    cases judged with
    | switched asked => exact .inl ⟨_, _, asked⟩

theorem command_switchRequest (host : Host v) (session : Session v) (subchannel : UInt16)
    (value : UInt32) :
    session.command host (switchRequest subchannel value) =
      if value = 0 then (⟨0, .number value⟩, session.stop host)
      else (⟨statusWord ((session.start host).1.map fun _ => 0), .number value⟩,
        (session.start host).2) := by
  have judged : session.monitor.judge (switchRequest subchannel value) = .switch (value ≠ 0) := by
    rw [judge, switchRequest, Command.ofCode?_code]
    rfl
  by_cases off : value = 0
  · have down : session.monitor.judge (switchRequest subchannel value) = .switch false := by
      rw [judged, off]
      rfl
    rw [if_pos off]
    simp only [Session.command, down, statusWord_zero]
    rfl
  · have up : session.monitor.judge (switchRequest subchannel value) = .switch true := by
      rw [judged, decide_eq_true off]
    rw [if_neg off]
    simp only [Session.command, up]
    rfl

/-- The status of a switch: zero if it has worked, and always the same failure if not. -/
def switchStatus : Except Fault Unit → Int32
  | .ok _ => 0
  | .error _ => -1

theorem switchStatus_of_neg {result : Except Fault Unit} (negative : switchStatus result < 0) :
    switchStatus result = -1 := by
  cases result with
  | ok _ => exact absurd negative Int32.lt_irrefl
  | error fault => rfl

theorem statusWord_start (host : Host v) (session : Session v) :
    statusWord ((session.start host).1.map fun _ => 0) = switchStatus (session.start host).1 := by
  cases result : (session.start host).1 with
  | ok _ => exact statusWord_zero
  | error fault =>
    obtain ⟨-, -, failed⟩ := (Session.start_eq_error_iff host session fault).mp result
    rw [failed]
    rfl

/-- What a command may do to a session, and what it may answer. -/
structure Answered (host : Host v) (session : Session v) (invocation : Invocation)
    (reply : Device.Reply) (after : Session v) : Prop where
  /-- Nothing but a switch changes the monitor or reaches the host. -/
  frame : (∀ subchannel value, invocation ≠ switchRequest subchannel value) → after = session
  off : ∀ subchannel, invocation = switchRequest subchannel 0 →
    after = session.stop host ∧ reply = ⟨0, invocation.argument⟩
  on : ∀ subchannel value, invocation = switchRequest subchannel value → value ≠ 0 →
    after = (session.start host).2 ∧
      reply = ⟨switchStatus (session.start host).1, invocation.argument⟩
  /-- There are two faults, and a refusal leaves the slots of the argument alone. -/
  refused : reply.status < 0 →
    (reply.status = -1 ∨ reply.status = -27) ∧ reply.argument = invocation.argument
  /-- A direction slot is filled when it is asked for, and left alone otherwise. -/
  asked : ∀ subchannel slot, invocation = directionRequest subchannel slot →
    reply = ⟨0, .direction .inputOnly⟩
  direction : ∀ slot, invocation.argument = .direction slot →
    (∀ subchannel, invocation ≠ directionRequest subchannel slot) →
    reply.argument = .direction slot
  unknown : (∀ command : Command, command.code ≠ invocation.command) ∨
      processorSubsystem < invocation.subsystem →
    reply = ⟨-27, invocation.argument⟩
  processor : invocation.subsystem = processorSubsystem →
    (∀ command ∈ processorCommands, command.code ≠ invocation.command) →
    reply = ⟨-27, invocation.argument⟩

theorem command_directionRequest (host : Host v) (session : Session v) (subchannel : UInt16)
    (slot : Device.Direction) :
    session.command host (directionRequest subchannel slot) =
      (⟨0, .direction .inputOnly⟩, session) := by
  have judged : session.monitor.judge (directionRequest subchannel slot) =
      .answer (.ok 0) (.direction .inputOnly) := by
    rw [judge, directionRequest, Command.ofCode?_code]
    rfl
  rw [command_of_answer host session judged, statusWord_zero]

/-- Every command that arrives, whatever its word, its subsystem, its subchannel and its argument,
is answered as it should be, in whatever state the monitor is. -/
theorem commands_answered (host : Host v) (session : Session v) (invocation : Invocation) :
    Answered host session invocation (session.command host invocation).1
      (session.command host invocation).2 where
  frame others := by
    obtain ⟨subchannel, value, asked⟩ | ⟨result, argument, -, answered⟩ :=
      command_cases host session invocation
    · exact absurd asked (others subchannel value)
    · rw [answered]
  off := by
    rintro subchannel rfl
    rw [command_switchRequest, if_pos rfl]
    exact ⟨rfl, rfl⟩
  on := by
    rintro subchannel value rfl nonzero
    rw [command_switchRequest, if_neg nonzero, statusWord_start]
    exact ⟨rfl, rfl⟩
  refused negative := by
    obtain ⟨subchannel, value, rfl⟩ | ⟨result, argument, judged, answered⟩ :=
      command_cases host session invocation
    · rw [command_switchRequest, statusWord_start] at negative ⊢
      split at negative
      · exact absurd negative Int32.lt_irrefl
      · rename_i on
        rw [if_neg on]
        exact ⟨.inl (switchStatus_of_neg negative), rfl⟩
    · rw [answered] at negative ⊢
      cases judged with
      | refused fault => exact ⟨fault.code_cases, rfl⟩
      | valued small => exact absurd negative (Int32.not_lt.mpr (statusWord_nonneg small))
      | sampled _ | directed _ =>
        exact absurd negative (Int32.not_lt.mpr (statusWord_nonneg (by decide)))
  asked := by
    rintro subchannel slot rfl
    rw [command_directionRequest]
  direction slot given others := by
    obtain ⟨subchannel, value, rfl⟩ | ⟨result, argument, judged, answered⟩ :=
      command_cases host session invocation
    · cases given
    · rw [answered]
      cases judged with
      | refused fault => exact given
      | valued small => exact given
      | sampled otherwise =>
        rw [given] at otherwise
        cases otherwise
      | directed asked =>
        subst asked
        cases given
        exact absurd rfl (others _)
  unknown := by
    rintro (unknown | beyond)
    · rw [command_of_answer host session (session.monitor.judge_of_unknown invocation unknown)]
      rfl
    · rw [command_of_answer host session (session.monitor.judge_of_beyond invocation beyond)]
      rfl
  processor processor others := by
    rw [command_of_answer host session
      (session.monitor.judge_of_processor invocation processor others)]
    rfl

end Monitor

end BoardSupport
