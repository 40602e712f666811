import HostProbe.Procfs.Fields
import HostProbe.Record.System
import HostProbe.Table
import HostProbe.Text.Utf8

/-! Disks and file systems: the traffic in `diskstats`, the kinds backed by devices in `filesystems`, and the table
of mounts with its octal escapes. -/
namespace HostProbe.Procfs

/-- Bytes in the sectors that `diskstats` counts. -/
def sectorSize : Nat := 512

/-- Traffic of the disk on one line of `diskstats`; short lines are partitions of old kernels. -/
def parseDiskLine (line : Text) : Outcome (Option (String × DiskIoCounters)) :=
  let fields := line.words
  match fields[2]? with
  | none => .ok none
  | some name =>
    let fail {α : Type} (detail : String) : Outcome α :=
      Outcome.report (.parse "/proc/diskstats" (String.ofList name ++ ": " ++ detail))
    let number (i : Nat) : Outcome Nat :=
      let field := fields.getD i []
      match Integer.word? field with
      | some n => .ok n
      | none => fail ("bad field " ++ Text.quoted field)
    let sectors (i : Nat) : Outcome Nat := do Word.mul (← number i) sectorSize
    if fields.length ≥ 14 then do
      let readCount ← number 3
      let readBytes ← sectors 5
      let readTime ← number 6
      let writeCount ← number 7
      let writeBytes ← sectors 9
      let writeTime ← number 10
      let busyTime ← number 12
      return some (String.ofList name, { readCount, readBytes, readTime, writeCount, writeBytes, writeTime, busyTime })
    else if fields.length = 7 then do
      let readCount ← number 3
      let readBytes ← sectors 4
      let writeCount ← number 5
      let writeBytes ← sectors 6
      return some (String.ofList name, { readCount, readBytes, writeCount, writeBytes })
    else fail s!"unexpected field count {fields.length}"

/-- Traffic of every disk; the last line of a name counts. -/
def parseDiskstats (text : Text) : Outcome (Table DiskIoCounters) := do
  return Table.ofList ((← text.lines.mapM parseDiskLine).filterMap id)

/-- Kinds of file system that keep their data on a device, in order of their names. -/
def parsePhysicalFilesystems (text : Text) : List String :=
  let named := text.lines.filterMap fun line =>
    if "nodev".toList.isPrefixOf line || (Text.trim line).isEmpty then none
    else some (String.ofList (Text.trim line), ())
  -- ZFS has no backing device of its own and still stores data.
  (Table.ofList (named ++ [("zfs", ())])).map (·.1)

def octalValue? (a b c : UInt8) : Option Nat :=
  let digit (d : UInt8) : Bool := 48 ≤ d && d ≤ 55
  if digit a && digit b && digit c then
    some (((a.toNat - 48) * 8 + (b.toNat - 48)) * 8 + (c.toNat - 48))
  else none

/-- Replaces each backslash with three octal digits of a byte by that byte. -/
def unescapeBytes (field : Bytes) : Bytes :=
  go field.length field []
where
  go : Nat → Bytes → Bytes → Bytes
    | 0, _, found => found.reverse
    | _ + 1, [], found => found.reverse
    | n + 1, 92 :: a :: b :: c :: rest, found =>
      match octalValue? a b c with
      | some value => if value < 256 then go n rest (UInt8.ofNat value :: found)
          else go n (a :: b :: c :: rest) (92 :: found)
      | none => go n (a :: b :: c :: rest) (92 :: found)
    | n + 1, x :: rest, found => go n rest (x :: found)

def unescapeOctal (field : Text) : String := Utf8.toString (unescapeBytes (Utf8.encode field))

def parseMount (wanted : Option (List String)) (line : Text) : Option Partition :=
  match line.words with
  | device :: mountpoint :: fstype :: opts :: _ =>
    let kind := String.ofList fstype
    if wanted.all fun names => names.contains kind then
      some { device := if device = "none".toList then "" else unescapeOctal device,
             mountpoint := unescapeOctal mountpoint, fstype := kind, opts := String.ofList opts }
    else none
  | _ => none

def parseMounts (text : Text) (wanted : Option (List String)) : List Partition :=
  text.lines.filterMap (parseMount wanted)

end HostProbe.Procfs
