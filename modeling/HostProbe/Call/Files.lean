import HostProbe.Error
import HostProbe.Text.Utf8

/-! Questions about files. -/
namespace HostProbe

inductive FileKind
  | regular
  | directory
  | link
  | characterDevice
  | other
  deriving Repr, DecidableEq, Inhabited

structure FileInfo where
  kind : FileKind
  /-- Number of the device that a device file stands for. -/
  rdev : Nat := 0
  /-- Device and inode that tell files apart. -/
  device : Nat := 0
  inode : Nat := 0
  executable : Bool := false
  deriving Repr, DecidableEq, Inhabited

inductive FileCall
  /-- Whole contents of a file. -/
  | read (path : String)
  /-- Names of a directory's entries. -/
  | list (path : String)
  /-- Target of a symbolic link. -/
  | readLink (path : String)
  /-- What a path leads to, links followed. -/
  | info (path : String)
  /-- What a path names, a link being itself. -/
  | linkInfo (path : String)
  /-- Opens a file for reading piecemeal. -/
  | openFile (path : String)
  /-- Some bytes of an opened file. -/
  | readAt (path : String) (offset count : Nat)
  deriving Repr, DecidableEq

@[reducible] def FileCall.Answer : FileCall → Type
  | read _ => Except IoError Bytes
  | list _ => Except IoError (List String)
  | readLink _ => Except IoError Bytes
  | info _ => Except IoError FileInfo
  | linkInfo _ => Except IoError FileInfo
  | openFile _ => Except IoError Unit
  | readAt .. => Except IoError Bytes

end HostProbe
