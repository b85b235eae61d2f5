import Chip8.Error
import Chip8.Machine.Layout

/-!
# ROM images

A ROM is the content of a file that holds at least one byte and fits above the program start. What
a name leads to is given by the host; names that no file can have are refused first.

## Main definitions

* `Chip8.RomEntry` : what a name leads to.
* `Chip8.readRom` : the bytes of a ROM.
-/

namespace Chip8

/-- What a name leads to. -/
inductive RomEntry where
  /-- A file with its content. -/
  | file (content : List UInt8)
  /-- A directory. -/
  | directory
  /-- Nothing. -/
  | missing

/-- The parts of a path that name entries, rather than a directory itself or its parent. -/
def namedParts (name : String) : List String :=
  (name.splitOn "/").filter fun part => part != "" && part != "." && part != ".."

/-- The path is too long, or its first named part is. Paths may have 4095 bytes and parts 255. -/
def nameTooLong (name : String) : Bool :=
  4095 < name.utf8ByteSize || (namedParts name).head?.any fun part => 255 < part.utf8ByteSize

/-- The bytes of the ROM with a name. -/
def readRom (name : String) (entry : RomEntry) : Except Error (List UInt8) :=
  if name.toList.contains '\x00' then .error (.misuse .nullInName)
  else if name.isEmpty then .error (.fault (.romUnreadable name "No such file or directory"))
  else if nameTooLong name then .error (.fault (.romUnreadable name "File name too long"))
  else if (namedParts name).isEmpty then .error (.fault (.romUnreadable name "Is a directory"))
  else
    match entry with
    | .missing => .error (.fault (.romUnreadable name "No such file or directory"))
    | .directory => .error (.fault (.romUnreadable name "Is a directory"))
    | .file content =>
      if content.isEmpty then .error (.fault (.romUnreadable name "file is empty"))
      else if maxProgramSize < content.length then
        .error (.fault (.romTooLarge name content.length))
      else .ok content

end Chip8
