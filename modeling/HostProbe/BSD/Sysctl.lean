import HostProbe.Growth
import HostProbe.Number.Real
import HostProbe.Program
import HostProbe.RecordLayout
import HostProbe.Word

/-! Tables of the kernel, read whole or as single values. -/
namespace HostProbe.BSD.Sysctl

def mib (numbers : List Int) : Mib := { numbers }

def size (mib : Mib) (call : String) : Query Nat := do
  match ← (Ask.sysctl (.size mib) : Program (Except IoError Nat)) with
  | .ok size => return size
  | .error cause => Query.report (.os call cause)

/-- One attempt at a table in a buffer of so many bytes; a table that has outgrown it asks for another. -/
def attempt (mib : Mib) (call : String) (room : Nat) : Query (Attempt Reply) := do
  match ← (Ask.sysctl (.read mib room) : Program (Except IoError Reply)) with
  | .ok reply => return .done reply
  | .error cause =>
    if cause = .number ErrorNumber.outOfMemory then return .tooSmall none
    Query.report (.os call cause)

def readFrom (policy : BufferPolicy) (mib : Mib) (call : String) (initial : Nat) : Query Reply :=
  Growth.untilDone policy .standard 1 call initial (attempt mib call)

/-- A whole table through buffers that begin with the size it is said to have. -/
def readBytes (policy : BufferPolicy) (mib : Mib) (call : String) : Query Bytes := do
  let size ← size mib call
  return (← readFrom policy mib call size).bytes

/-- The bytes of a value for which there is no more room; fewer count as followed by zeros. -/
def value (mib : Mib) (call : String) (room : Nat) : Query Bytes := do
  match ← (Ask.sysctl (.read mib room) : Program (Except IoError Reply)) with
  | .ok reply => return reply.bytes
  | .error cause => Query.report (.os call cause)

def natValue (mib : Mib) (call : String) (room : Nat) : Query Nat := do
  return Bytes.natAt (← value mib call room) 0 room

def intValue (mib : Mib) (call : String) (room : Nat) : Query Int := do
  return Bytes.intAt (← value mib call room) 0 room

/-- A record of fixed size; bytes that the kernel did not write are zero. -/
def record {α : Type} (layout : RecordLayout α) (mib : Mib) (call : String) : Query α := do
  return layout.read (← value mib call layout.size)

/-- The bytes of a value by its name; a name that the kernel does not know is unsupported. -/
def named (name : String) (room : Nat) : Query Bytes := do
  match ← (Ask.sysctl (.readNamed name room) : Program (Except IoError Reply)) with
  | .ok reply => return reply.bytes
  | .error cause =>
    if cause = .number ErrorNumber.noEntry then Query.report (.unsupported name)
    Query.report (.os s!"sysctlbyname({name})" cause)

def natNamed (name : String) (room : Nat) : Query Nat := do return Bytes.natAt (← named name room) 0 room

def intNamed (name : String) (room : Nat) : Query Int := do return Bytes.intAt (← named name room) 0 room

/-- Address of a name; a name that the kernel does not know is unsupported. -/
def resolve (name : String) : Query Mib := do
  match ← (Ask.sysctl (.resolve name) : Program (Except IoError Unit)) with
  | .ok () => return { name := some name, numbers := [] }
  | .error cause =>
    if cause = .number ErrorNumber.noEntry then Query.report (.unsupported name)
    Query.report (.os s!"sysctlnametomib({name})" cause)

/-- A table of records whose address ends with the size of a record and the number of records there is room for;
buffers begin with room for one more than there are said to be. -/
def readTable {α : Type} (policy : BufferPolicy) (layout : RecordLayout α) (table : Mib) (call : String) :
    Query (List α) := do
  let address (count : Nat) : Mib := table.extend [layout.size, Word.toInt 32 count]
  let initial ← Query.lift (Word.add (← size (address 0) call) layout.size)
  let reply ← Growth.untilDone policy .standard 1 call initial fun room =>
    let count := room / layout.size
    attempt (address count) call (count * layout.size)
  return layout.all reply.bytes

/-- A value of the answer, or another for a name that the kernel does not know. -/
def orIfUnsupported {α : Type} (query : Query α) (default : α) : Query α := do
  match ← query.attempt with
  | .ok a => return a
  | .error error => if error.kind = .unsupported then return default else Query.report error

/-- Seconds of a time held as seconds and a field of microseconds. -/
def timeOf (seconds microseconds : Int) : Float := Real.ofInt seconds + Real.ofInt microseconds / 1000000.0

def timeAt (bytes : Bytes) (offset microsecondsSize : Nat) : Float :=
  timeOf (Bytes.intAt bytes offset 8) (Bytes.intAt bytes (offset + 8) microsecondsSize)

/-- When the system was started; systems differ in the number of the value and the width of microseconds. -/
def bootTime (number : Int) (microsecondsSize : Nat) : Query Float := do
  return timeAt (← value (mib [1, number]) "sysctl(kern.boottime)" 16) 0 microsecondsSize

def processors : Query Nat := do return max (← intValue (mib [6, 3]) "sysctl(hw.ncpu)" 4) 1 |>.toNat

end HostProbe.BSD.Sysctl
