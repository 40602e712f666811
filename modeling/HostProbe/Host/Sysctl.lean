import HostProbe.Bytes
import HostProbe.Call.Kernel

/-! Recorded tables of a kernel. -/
namespace HostProbe

structure TableRecord where
  bytes : Bytes := []
  /-- Size that is told in place of the real one. -/
  estimate : Option Nat := none
  /-- Numbers with which every question fails, only reading, and only looking up its name. -/
  failure : Option ErrorNumber := none
  readFailure : Option ErrorNumber := none
  nameFailure : Option ErrorNumber := none
  deriving Inhabited

namespace TableRecord

def bufferAddress : Nat := 0x7f0000000000

def relocate (address : Nat) (offsets : List Nat) (bytes : Bytes) : Bytes :=
  offsets.foldl (fun bytes offset =>
    bytes.take offset ++ Bytes.ofNat 8 (Bytes.natAt bytes offset 8 + address) ++ bytes.drop (offset + 8)) bytes

def size (t : TableRecord) : Except IoError Nat :=
  match t.failure with
  | some n => .error (.number n)
  | none => .ok (t.estimate.getD t.bytes.length)

def read (t : TableRecord) (room : Nat) : Except IoError Reply :=
  match t.failure.or t.readFailure with
  | some n => .error (.number n)
  | none =>
    if t.bytes.length > room then .error (.number ErrorNumber.outOfMemory)
    else .ok { bytes := t.bytes, address := bufferAddress }

end TableRecord

abbrev SysctlRecord := List (String × TableRecord)

namespace SysctlRecord

/-- Names under which an address is looked up: in full, then with numbers dropped from its end. -/
def keys (mib : Mib) : List String :=
  let parts := mib.name.toList ++ mib.numbers.map toString
  ((List.range parts.length).map fun n => ".".intercalate (parts.take (n + 1))).reverse

def named? (record : SysctlRecord) (name : String) : Option TableRecord :=
  (record.find? fun t => t.1 == name).map (·.2)

def find? (record : SysctlRecord) (mib : Mib) : Option TableRecord := (keys mib).findSome? record.named?

def missing {α : Type} : Except IoError α := .error (.number ErrorNumber.noEntry)

def answer (record : SysctlRecord) : (c : SysctlCall) → c.Answer
  | .size mib => (record.find? mib).elim missing TableRecord.size
  | .read mib room => (record.find? mib).elim missing fun t => t.read room
  | .readNamed name room => (record.named? name).elim missing fun t => t.read room
  | .resolve name => (record.named? name).elim missing fun t => t.nameFailure.elim (.ok ()) fun n => .error (.number n)

end SysctlRecord

structure MountRecord where
  mounts : List Mount := []
  count : Option Int := none
  failure : Option ErrorNumber := none
  readFailure : Option ErrorNumber := none
  deriving Inhabited

def MountRecord.answer (record : MountRecord) : (c : MountCall) → c.Answer
  | .count => record.failure.elim (.ok (record.count.getD record.mounts.length)) fun n => .error (.number n)
  | .list room =>
    (record.failure.or record.readFailure).elim (.ok (record.mounts.take room)) fun n => .error (.number n)

structure SwapRecord where
  pages : Except String (Option SwapPages) := .error "no kvm"

def SwapRecord.answer (record : SwapRecord) : (c : SwapCall) → c.Answer
  | .pages =>
    match record.pages with
    | .ok pages => .ok pages
    | .error text => .error (.custom .other text)

end HostProbe
