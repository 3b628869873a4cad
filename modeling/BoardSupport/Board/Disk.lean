/-
This file holds the board's start-up disk: a fixed number of bytes in memory.
It has to be formatted before it can be mounted, and mounted before a file can
be created on it. There is only one file, which begins at the first byte; an
open file is the offset at which it is written next. What does not fit is cut
off, and the writer is told how much did fit.
-/

import BoardSupport.Settings

namespace BoardSupport.Board

structure Disk where
  content : List UInt8
  formatted : Bool
  mounted : Bool
  deriving DecidableEq, Repr

namespace Disk

def size : Nat := Settings.sectorSize * Settings.sectorCount

def blank : Disk := ⟨List.replicate size 0, false, false⟩

/-- Format the disk, which clears it; none if it is too small for so many sectors. -/
def format (disk : Disk) (sectorSize sectorCount : Nat) : Option Disk :=
  if sectorSize * sectorCount ≤ disk.content.length then
    some { disk with content := List.replicate disk.content.length 0, formatted := true }
  else none

/-- Mount the disk; none if it is not formatted. -/
def mount (disk : Disk) : Option Disk :=
  if disk.formatted then some { disk with mounted := true } else none

/-- The file on the disk, open at its beginning; none if the disk is not mounted. -/
def create (disk : Disk) : Option Nat := if disk.mounted then some 0 else none

/-- Bytes that can still be written from an offset on. -/
def free (disk : Disk) (offset : Nat) : Nat := disk.content.length - offset

/-- Write as much of some bytes as fits from an offset on, and answer how much that was. -/
def write (disk : Disk) (offset : Nat) (bytes : List UInt8) : Nat × Disk :=
  let written := min bytes.length (disk.free offset)
  (written,
    { disk with
      content :=
        disk.content.take offset ++ bytes.take written ++ disk.content.drop (offset + written) })

def read (disk : Disk) (offset length : Nat) : List UInt8 :=
  (disk.content.drop offset).take length

theorem length_blank : blank.content.length = size := by simp [blank]

end Disk

end BoardSupport.Board
