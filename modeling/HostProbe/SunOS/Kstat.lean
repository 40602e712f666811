import HostProbe.Program
import HostProbe.RecordLayout
import HostProbe.Table

/-! Kernel statistics: a chain of entries, many of which hold named values. -/
namespace HostProbe.SunOS

/-- A value with its name; what is no number that counts something has none. -/
structure NamedValue where
  name : String
  type : Nat
  bytes : Bytes
  deriving Repr, DecidableEq, Inhabited

namespace NamedValue

def layout : RecordLayout NamedValue where
  size := 48
  read b := { name := Bytes.stringAt b 0 31, type := Bytes.natAt b 31 1, bytes := b.drop 32 }

def number? (v : NamedValue) : Option Nat :=
  match v.type with
  | 1 => (Bytes.intAt v.bytes 0 4).toNat?
  | 2 => some (Bytes.natAt v.bytes 0 4)
  | 3 => (Bytes.intAt v.bytes 0 8).toNat?
  | 4 => some (Bytes.natAt v.bytes 0 8)
  | _ => none

def text? (v : NamedValue) : Option String := if v.type = 0 then some (Bytes.cString v.bytes) else none

end NamedValue

/-- Numbers of named values in their order; some values have none. -/
abbrev NamedNumbers := List (String × Option Nat)

namespace NamedNumbers

def first? (values : NamedNumbers) (name : String) : Option Nat := (values.find? fun v => v.1 == name).bind (·.2)

/-- The names that have numbers; the last number of a name counts. -/
def table (values : NamedNumbers) : Table Nat := Table.ofList (values.filterMap fun (k, n) => n.map fun n => (k, n))

end NamedNumbers

namespace Kstat

/-- Types of entries: named values, and counters of a device. -/
def namedType : Nat := 1
def ioType : Nat := 3

def chain : Query (List KstatHeader) := do
  match ← (Ask.kstat .chain : Program (Except IoError (List KstatHeader))) with
  | .ok entries => return entries
  | .error cause => Query.report (.os "kstat_open" cause)

/-- Whether an entry belongs to a module and, where one is asked for, has the name. -/
def belongs (module : String) (name : Option String) (entry : KstatHeader) : Bool :=
  entry.module == module && (name.map (entry.name == ·)).getD true

def find (module : String) (name : Option String) : Query (List KstatHeader) := do
  return (← chain).filter (belongs module name)

def read (entry : KstatHeader) : Query Bytes := do
  match ← (Ask.kstat (.read entry) : Program (Except IoError (Option Bytes))) with
  | .ok data => return data.getD []
  | .error cause => Query.report (.os s!"kstat_read({entry.module}:{entry.instanceNumber}:{entry.name})" cause)

def namedValues (entry : KstatHeader) : Query (List NamedValue) := do return NamedValue.layout.all (← read entry)

def namedNumbers (entry : KstatHeader) : Query NamedNumbers := do
  return (← namedValues entry).map fun v => (v.name, v.number?)

def number (entry : KstatHeader) (name : String) : Query (Option Nat) := do
  return (← namedNumbers entry).first? name

def text (entry : KstatHeader) (name : String) : Query (Option String) := do
  return ((← namedValues entry).find? fun v => v.name == name && v.type == 0).bind NamedValue.text?

end Kstat

structure DeviceCounters where
  bytesRead : Nat
  bytesWritten : Nat
  reads : Nat
  writes : Nat
  /-- Nanoseconds that requests waited and ran. -/
  waitTime : Int
  runTime : Int
  deriving Repr, DecidableEq, Inhabited

def DeviceCounters.layout : RecordLayout DeviceCounters where
  size := 80
  read b := {
    bytesRead := Bytes.natAt b 0 8, bytesWritten := Bytes.natAt b 8 8, reads := Bytes.natAt b 16 4
    writes := Bytes.natAt b 20 4, waitTime := Bytes.intAt b 24 8, runTime := Bytes.intAt b 48 8 }

end HostProbe.SunOS
