/-
This file says what writing leaves on the start-up disk. A file is the offset at which
it is written next, and each write leaves it where the next one has to begin, so a
file that is written from its beginning holds one text: everything that was written, one
after the other, as far as the disk has room. `Filled` is what every write keeps up,
whether the disk still has room for it or is full already.
-/

import BoardSupport.Board.Firmware

namespace BoardSupport.Board

namespace Disk

/-- What the disk holds of a text: as much of it as fits, and zeros behind it. -/
def holding (text : List UInt8) : List UInt8 :=
  text.take size ++ List.replicate (size - text.length) 0

theorem length_holding (text : List UInt8) : (holding text).length = size := by
  simp only [holding, List.length_append, List.length_take, List.length_replicate]
  omega

theorem holding_nil : holding [] = List.replicate size 0 := by
  rw [holding, List.take_nil, List.nil_append, List.length_nil, Nat.sub_zero]

/-- A text that fits is there as a whole. -/
theorem holding_of_fits {text : List UInt8} (fits : text.length ≤ size) :
    holding text = text ++ List.replicate (size - text.length) 0 := by
  rw [holding, List.take_of_length_le fits]

/-- A text that does not fit fills the disk. -/
theorem holding_of_long {text : List UInt8} (long : size ≤ text.length) :
    holding text = text.take size := by
  rw [holding, Nat.sub_eq_zero_of_le long, List.replicate_zero, List.append_nil]

/-- Writing where a text ends on the disk makes the text longer. -/
theorem write_holding (disk : Disk) (text bytes : List UInt8)
    (holds : disk.content = holding text) :
    disk.write (min text.length size) bytes =
      (min bytes.length (size - text.length),
        { disk with content := holding (text ++ bytes) }) := by
  have ends : (text.take size).length = min text.length size := by
    rw [List.length_take, Nat.min_comm]
  have written : min bytes.length (disk.free (min text.length size)) =
      min bytes.length (size - text.length) := by
    rw [free, holds, length_holding]
    omega
  have kept : disk.content.take (min text.length size) = text.take size := by
    rw [holds, holding, List.take_left' ends]
  have added : bytes.take (min bytes.length (size - text.length)) =
      bytes.take (size - text.length) := by
    rw [Nat.min_comm, ← List.take_take, List.take_length]
  have blank : disk.content.drop (min text.length size + min bytes.length (size - text.length)) =
      List.replicate (size - (text ++ bytes).length) 0 := by
    rw [holds, holding, ← List.drop_drop, List.drop_left' ends, List.drop_replicate,
      List.length_append]
    congr 1
    omega
  rw [write]
  simp only [written, kept, added, blank]
  rw [← List.take_append]
  rfl

end Disk

/-! ### Opening the file -/

namespace Firmware

/-- Firmware whose disk has its full size, as a disk that was once blank always has. -/
def HasDisk (firmware : Firmware) : Prop := firmware.disk.content.length = Disk.size

/-- Firmware that has made its disk. -/
def afterFormat (firmware : Firmware) (device volume : String) (sectorSize sectorCount : Nat) :
    Firmware :=
  let content := List.replicate firmware.disk.content.length 0
  write { firmware with disk := { firmware.disk with content, formatted := true } }
    (.formatted device volume sectorSize sectorCount)

/-- Firmware that has mounted its disk. -/
def afterMount (firmware : Firmware) (mountPoint : String) : Firmware :=
  write { firmware with disk := { firmware.disk with mounted := true } } (.mounted mountPoint)

theorem run_get_bind {Result : Type} (next : Firmware → Startup.Service Firmware Result)
    (firmware : Firmware) : (get >>= next).run firmware = (next firmware).run firmware := rfl

theorem run_makeDisk (firmware : Firmware) (device volume : String) (sectorSize sectorCount : Nat)
    (fits : sectorSize * sectorCount ≤ firmware.disk.content.length) :
    (services.makeDisk device volume sectorSize sectorCount).run firmware =
      (.ok (), firmware.afterFormat device volume sectorSize sectorCount) := by
  unfold services
  rw [run_get_bind, Disk.format, if_pos fits]
  rfl

theorem run_mount (firmware : Firmware) (device mountPoint : String)
    (formatted : firmware.disk.formatted = true) :
    (services.mount device mountPoint).run firmware = (.ok (), firmware.afterMount mountPoint) := by
  unfold services
  rw [run_get_bind, Disk.mount, if_pos formatted]
  rfl

/-- The file begins at the first byte. -/
theorem run_create (firmware : Firmware) (path : String)
    (mounted : firmware.disk.mounted = true) :
    (services.create path).run firmware = (.ok 0, firmware) := by
  unfold services
  rw [run_get_bind, Disk.create, if_pos mounted]
  rfl

/-! ### Writing to the file -/

/-- A file to which a text has been written, on a disk that holds as much of it as fits. -/
structure Filled (text : List UInt8) (file : Nat) (firmware : Firmware) : Prop where
  content : firmware.disk.content = Disk.holding text
  offset : file = min text.length Disk.size

theorem filled_opened (firmware : Firmware) (whole : firmware.HasDisk) (device volume : String)
    (sectorSize sectorCount : Nat) (mountPoint : String) :
    Filled [] 0 ((firmware.afterFormat device volume sectorSize sectorCount).afterMount mountPoint)
    where
  content := by
    rw [Disk.holding_nil, ← whole]
    rfl
  offset := (Nat.zero_min Disk.size).symm

/-- Write to a file one content after the other. -/
def writeAll (file : Nat) (firmware : Firmware) : List (List UInt8) → Nat × Firmware
  | [] => (file, firmware)
  | content :: rest =>
    let ((_, left), after) := services.write file content firmware
    writeAll left after rest

section Filled

variable {text : List UInt8} {file : Nat} {firmware : Firmware}

theorem Filled.within (filled : Filled text file firmware) :
    file ≤ firmware.disk.content.length := by
  rw [filled.content, Disk.length_holding, filled.offset]
  exact Nat.min_le_right _ _

/-- A write takes what still fits, leaves the file behind it, and changes nothing but the disk. -/
theorem Filled.write (filled : Filled text file firmware) (content : List UInt8) :
    ∃ left disk, services.write file content firmware =
        ((.ok (min content.length (Disk.size - file)), left), { firmware with disk }) ∧
      Filled (text ++ content) left { firmware with disk } := by
  obtain ⟨holds, rfl⟩ := filled
  have written : firmware.disk.write (min text.length Disk.size) content = _ :=
    Disk.write_holding firmware.disk text content holds
  have rest : min content.length (Disk.size - min text.length Disk.size) =
      min content.length (Disk.size - text.length) := by omega
  refine ⟨min text.length Disk.size + min content.length (Disk.size - text.length),
    { firmware.disk with content := Disk.holding (text ++ content) }, ?_, rfl, ?_⟩
  · show ((Except.ok (firmware.disk.write _ content).1, _ + (firmware.disk.write _ content).1),
      { firmware with disk := (firmware.disk.write _ content).2 }) = _
    rw [written, rest]
  · rw [List.length_append]
    omega

theorem Filled.writeAll (filled : Filled text file firmware) (writes : List (List UInt8)) :
    Filled (text ++ writes.flatten) (firmware.writeAll file writes).1
      (firmware.writeAll file writes).2 := by
  induction writes generalizing text file firmware with
  | nil =>
    rw [List.flatten_nil, List.append_nil]
    exact filled
  | cons content rest inductionHypothesis =>
    obtain ⟨left, disk, written, next⟩ := filled.write content
    rw [List.flatten_cons, ← List.append_assoc, Firmware.writeAll, written]
    exact inductionHypothesis next

end Filled

/-- A file that takes contents one after the other, as many as are written to it. However many there
were, it stays within the disk, the disk holds them all, cut off at its end, and the next write
takes what still fits. -/
def TakesWrites (file : Nat) (firmware : Firmware) : Prop :=
  ∀ writes content,
    let (left, after) := firmware.writeAll file writes
    left ≤ after.disk.content.length ∧
      after.disk.content = Disk.holding writes.flatten ∧
      (services.write left content after).1.1 = .ok (min content.length (Disk.size - left))

/-- A disk that is made and mounted, with as many sectors as it has room for, gives a file that
takes writes. -/
theorem exists_takesWrites (firmware : Firmware) (whole : firmware.HasDisk)
    (device volume : String) (sectorSize sectorCount : Nat)
    (fits : sectorSize * sectorCount ≤ Disk.size) (mountPoint path : String) :
    ∃ made mounted file,
      (services.makeDisk device volume sectorSize sectorCount).run firmware = (.ok (), made) ∧
      (services.mount device mountPoint).run made = (.ok (), mounted) ∧
      (services.create path).run mounted = (.ok file, mounted) ∧
      TakesWrites file mounted := by
  have room : sectorSize * sectorCount ≤ firmware.disk.content.length := by rw [whole]; exact fits
  refine ⟨_, _, 0, run_makeDisk firmware device volume sectorSize sectorCount room,
    run_mount _ device mountPoint rfl, run_create _ path rfl, fun writes content => ?_⟩
  have filled := (filled_opened firmware whole device volume sectorSize sectorCount
    mountPoint).writeAll writes
  obtain ⟨left, disk, written, -⟩ := filled.write content
  refine ⟨filled.within, filled.content, ?_⟩
  rw [written]

end Firmware

end BoardSupport.Board
