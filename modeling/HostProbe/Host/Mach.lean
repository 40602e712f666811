import HostProbe.Call.Kernel
import HostProbe.Word

/-! Recorded answers of a kernel that keeps its tables behind ports. -/
namespace HostProbe

/-- Bytes of an answer, the size that is told in place of theirs, and the numbers with which every question fails and
only reading. -/
structure BlockRecord where
  bytes : Bytes := []
  estimate : Option Nat := none
  failure : Option ErrorNumber := none
  readFailure : Option ErrorNumber := none
  deriving Inhabited

namespace BlockRecord

def read (b : BlockRecord) (room : Nat) : Except IoError Bytes :=
  match b.failure.or b.readFailure with
  | some n => .error (.number n)
  | none => .ok (b.bytes.take room)

def readSome (b : BlockRecord) (lastError : ErrorNumber) (room : Nat) : Except IoError Bytes := do
  let bytes ← b.read room
  if bytes.isEmpty then .error (.number lastError) else return bytes

def size (b : BlockRecord) (lastError : ErrorNumber) : Except IoError Nat :=
  match b.failure with
  | some n => .error (.number n)
  | none =>
    match b.estimate.getD b.bytes.length with
    | 0 => .error (.number lastError)
    | size => .ok size

end BlockRecord

structure RegionRecord where
  regions : List MemoryRegion := []
  pastLast : KernelResult := 1
  deriving Inhabited

/-- The first region that ends behind the address; none ends behind the last address of all. -/
def RegionRecord.answer (r : RegionRecord) (address : Nat) : Except KernelResult MemoryRegion :=
  match r.regions.find? fun region => Word.saturatingAdd region.address region.size > address with
  | some region => .ok region
  | none => .error r.pastLast

structure TaskRecord where
  facets : List (ProcessFacet × BlockRecord) := []
  descriptors : List ((Int × DescriptorFacet) × BlockRecord) := []
  path : Option BlockRecord := none
  name : Option BlockRecord := none
  usage : Option BlockRecord := none
  port : KernelResult := 0
  memory : RegionRecord := {}
  deriving Inhabited

structure MachRecord where
  tasks : List (Pid × TaskRecord) := []
  load : Except KernelResult Bytes := .error 5
  memory : Except KernelResult Bytes := .error 5
  processors : Except KernelResult (Nat × List Nat) := .error 5
  timebase : Except KernelResult (Nat × Nat) := .ok (1, 1)
  resident : Except ErrorNumber Nat := .error 22
  regions : RegionRecord := {}
  deriving Inhabited

namespace MachRecord

def task? (record : MachRecord) (pid : Pid) : Option TaskRecord :=
  (record.tasks.find? fun t => t.1 == pid).map (·.2)

def facet? (record : MachRecord) (pid : Pid) (facet : ProcessFacet) : Option BlockRecord := do
  return (← (← record.task? pid).facets.find? fun f => f.1 == facet).2

def descriptor? (record : MachRecord) (pid : Pid) (fd : Int) (facet : DescriptorFacet) : Option BlockRecord := do
  return (← (← record.task? pid).descriptors.find? fun d => d.1 == (fd, facet)).2

def missing {α : Type} : Except IoError α := .error (.number ErrorNumber.noProcess)

/-- Answers, given the number that the last failure left, which empty answers keep. -/
def answer (record : MachRecord) (lastError : ErrorNumber) : (c : MachCall) → c.Answer
  | .process pid facet room => (record.facet? pid facet).elim missing fun b => b.readSome lastError room
  | .processSize pid facet => (record.facet? pid facet).elim missing fun b => b.size lastError
  | .descriptor pid fd facet room => (record.descriptor? pid fd facet).elim missing fun b => b.readSome lastError room
  | .path pid room => ((record.task? pid).bind TaskRecord.path).elim missing fun b => b.readSome lastError room
  | .name pid room => ((record.task? pid).bind TaskRecord.name).elim missing fun b => b.readSome lastError room
  | .usage pid room => ((record.task? pid).bind TaskRecord.usage).elim missing fun b => b.read room
  | .load room => record.load.map fun bytes => bytes.take room
  | .memory room => record.memory.map fun bytes => bytes.take room
  | .processors => record.processors
  | .timebase => record.timebase
  | .resident =>
    match record.resident with
    | .ok size => .ok size
    | .error n => .error (.number n)
  | .taskPort pid =>
    match (record.task? pid).elim 0 TaskRecord.port with
    | 0 => .ok ()
    | result => .error result
  | .region none address => record.regions.answer address
  | .region (some pid) address => ((record.task? pid).elim {} TaskRecord.memory).answer address

end MachRecord
end HostProbe
