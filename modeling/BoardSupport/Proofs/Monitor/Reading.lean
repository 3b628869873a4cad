/-
This file says what a reader of the load gets. There are two ways to the one load
that there is: the channel of the board as a whole and the channel of its
processor. A request for one sample is granted at either, and the sample is the load
as the monitor has it at that moment, which reading does not change.
-/

import BoardSupport.Monitor.Host

namespace BoardSupport.Monitor

variable {v : Vocabulary} {Handle : Type}

/-- The subsystems at which the load can be read. -/
def HasLoad (subsystem : UInt16) : Prop :=
  subsystem = aggregateSubsystem ∨ subsystem = processorSubsystem

/-- A request for one sample of the load, with a slot for it. -/
def loadRequest (subsystem : UInt16) (slot : UInt32) : Device.Invocation :=
  ⟨Device.Command.analogRead.code, subsystem, loadSubchannel, .channels (.ofSamples [slot])⟩

/-- The reply that hands over a load in that slot. -/
def loadReply (load : UInt32) : Device.Reply := ⟨0, .channels (.ofSamples [load])⟩

theorem loadReply_inj {load other : UInt32} : loadReply load = loadReply other ↔ load = other := by
  constructor
  · intro same
    have samples := congrArg Device.ChannelTransfer.samples
      (Device.Argument.channels.inj (Device.Reply.mk.inj same).2)
    exact (List.cons.inj samples).1
  · exact congrArg loadReply

theorem judge_loadRequest (monitor : Monitor Handle) (subsystem : UInt16) (slot : UInt32)
    (hasLoad : HasLoad subsystem) :
    monitor.judge (loadRequest subsystem slot) =
      .answer (.ok 0) (.channels (.ofSamples [monitor.averageLoad])) := by
  rw [judge, loadRequest, Device.Command.ofCode?_code]
  rcases hasLoad with rfl | rfl <;> rfl

theorem command_loadRequest (host : Host v) (session : Session v) (subsystem : UInt16)
    (slot : UInt32) (hasLoad : HasLoad subsystem) :
    session.command host (loadRequest subsystem slot) =
      (loadReply session.monitor.averageLoad, session) := by
  simp only [Session.command, judge_loadRequest session.monitor subsystem slot hasLoad,
    statusWord_zero, loadReply]

end BoardSupport.Monitor
