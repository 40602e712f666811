import HostProbe.Bytes
import HostProbe.Footprint
import HostProbe.MacOS.Records
import HostProbe.Program
import HostProbe.Word

/-! Footprints from the regions of a task's memory: what is private to the task is its unshared size. -/
namespace HostProbe.Footprint

inductive Architecture
  | arm64
  | other
  deriving Repr, DecidableEq, Inhabited

namespace Architecture

def sharedCache : Architecture → Nat × Nat
  | arm64 => (0x180000000, 0x100000000)
  | other => (0x7fff00000000, 0xffe00000)

/-- Regions that are shared by every process, unless they were made private. -/
def inSharedCache (a : Architecture) (address : Nat) : Bool :=
  a.sharedCache.1 ≤ address && address < a.sharedCache.1 + a.sharedCache.2

end Architecture

/-- Pages of a region that its task shares with none. Large pages cannot be shared; pages that are copied when they
are written belong to the only task that refers to them. -/
def privatePages (architecture : Architecture) (region : MemoryRegion) : Nat :=
  let copyOnWrite := region.shareMode = 1
  let isPrivate := region.shareMode = 2
  let largePage := region.shareMode = 8
  if architecture.inSharedCache region.address && !isPrivate then 0
  else if isPrivate || largePage then region.privatePages + region.sharedPages
  else if copyOnWrite then region.privatePages + if region.references = 1 then region.sharedPages else 0
  else 0

abbrev Reading (α : Type) := ExceptT (Failure IoError) Program α

def pastLastRegion : KernelResult := 1

/-- Private pages of the regions from an address on, added to those that were counted before. The walk goes from region
to region until the kernel says that there are no more; if it does not say so within as many questions, there is no
count. -/
def privatePagesFrom (architecture : Architecture) (pid : Option Pid) :
    (questions address counted : Nat) → Reading (Option Nat)
  | 0, _, _ => return none
  | questions + 1, address, counted => do
    match ← (Ask.mach (.region pid address) : Program (Except KernelResult MemoryRegion)) with
    | .error result =>
      if result = pastLastRegion then return some counted
      throw (.report (.custom .other s!"mach_vm_region failed with kern_return_t {result}"))
    | .ok region =>
      match Word.add counted (privatePages architecture region) with
      | .error _ => throw .abort
      | .ok counted =>
        privatePagesFrom architecture pid questions (Word.saturatingAdd region.address region.size) counted

structure RegionQuerier where
  target : Target
  pageSize : Nat
  /-- The processor that the program is built for. -/
  architecture : Architecture := .other
  deriving Repr, DecidableEq, Inhabited

namespace RegionQuerier

def new (target : Target) : Program RegionQuerier := do
  let size ← Ask.posix (.setting .pageSize)
  return { target, pageSize := if size > 0 then size.toNat else 4096 }

def resident (q : RegionQuerier) : Reading Nat := do
  match q.target with
  | .current =>
    match ← (Ask.mach .resident : Program (Except IoError Nat)) with
    | .ok size => return size
    | .error cause => throw (.report cause)
  | .pid pid =>
    match ← (Ask.mach (.process pid .task MacOS.TaskInfo.layout.size) : Program (Except IoError Bytes)) with
    | .error cause => throw (.report cause)
    | .ok bytes =>
      match MacOS.TaskInfo.layout.first? bytes with
      | some info => return info.residentSize
      | none => throw (.report (.custom .invalidData "short read from proc_pidinfo"))

/-- The right to look into another task; refusal is nearly always a matter of permission. -/
def openTask (q : RegionQuerier) : Reading (Option Pid) := do
  match q.target with
  | .current => return none
  | .pid pid =>
    match ← (Ask.mach (.taskPort pid) : Program (Except KernelResult Unit)) with
    | .ok () => return some pid
    | .error result =>
      throw (.report (.custom .permissionDenied s!"task_for_pid failed with kern_return_t {result}"))

/-- Resident and unshared size of the task. A walk that moves on is over within as many questions as there are
addresses; one that is not would go on forever, and is given up. -/
def footprint (q : RegionQuerier) : Reading Footprint := do
  let rss ← q.resident
  match ← privatePagesFrom q.architecture (← q.openTask) Word.span 0 0 with
  | none => throw .abort
  | some pages =>
    match Word.mul pages q.pageSize with
    | .ok uss => return { rss, uss := some uss }
    | .error _ => throw .abort

end RegionQuerier
end HostProbe.Footprint
