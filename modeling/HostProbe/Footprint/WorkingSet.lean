import HostProbe.Footprint
import HostProbe.Growth
import HostProbe.Program
import HostProbe.Word

/-! Footprints from the pages of a process that are in memory: those that it may share with none are its unshared
size. -/
namespace HostProbe.Footprint

/-- Bit of a page's block that says that it may be shared. -/
def sharedBit : Nat := 8

def initialBlocks : Nat := 4096
def workingSetAttempts : Nat := 8

/-- Right to read a process's memory, to ask all about it, and to ask a little. -/
def readAccess : Nat := 0x400 ||| 0x10
def limitedAccess : Nat := 0x1000

/-- Number of unshared pages among the blocks of a buffer with room for so many; blocks that were not written count as
unshared. -/
def unsharedPages (reply : WorkingSetReply) (room : Nat) : Nat :=
  let count := min reply.count room
  let blocks := reply.blocks.take count
  blocks.countP (fun b => !b.testBit sharedBit) + (count - blocks.length)

abbrev PageReading (α : Type) := ExceptT (Failure IoError) Program α

def ofOutcome {α : Type} : Outcome α → PageReading α
  | .ok a => return a
  | .error _ => throw .abort

/-- Counts unshared pages with the remaining attempts, the first with room for so many blocks. Buffers below 4 GiB are
taken to be granted: that the system refuses one of them for want of memory is left out. -/
def countUnshared (process : ProcessHandle) : (remaining room : Nat) → PageReading Nat
  | 0, _ => throw (.report (.custom .other "working set kept growing faster than the buffer"))
  | remaining + 1, room => do
    let words ← ofOutcome (Word.add room 1)
    if words * 8 ≥ 1 <<< 32 then throw (.report (.bare .outOfMemory))
    match ← (Ask.windows (.workingSet process room) : Program (RoomReply IoError WorkingSetReply)) with
    | .filled reply => return unsharedPages reply room
    | .failed cause => throw (.report cause)
    | .tooSmall needed =>
      let grown ← ofOutcome (Word.add (max needed room) (needed / 4))
      countUnshared process remaining (← ofOutcome (Word.add grown 64))

structure WorkingSet where
  target : Target
  pageSize : Nat
  deriving Repr, DecidableEq, Inhabited

namespace WorkingSet

def new (target : Target) : Program WorkingSet := do
  return { target, pageSize := max (← Ask.windows .pageSize) 1 }

def openTarget (q : WorkingSet) (access : Nat) : PageReading ProcessHandle := do
  match q.target with
  | .current => return .current
  | .pid pid =>
    if pid < 0 then throw (.report (.bare .notFound))
    match ← (Ask.windows (.openProcess pid access) : Program (Except IoError Unit)) with
    | .ok () => return .opened pid
    | .error cause => throw (.report cause)

def counters (process : ProcessHandle) : PageReading WorkingSetCounters := do
  match ← (Ask.windows (.memoryCounters process) : Program (Except IoError WorkingSetCounters)) with
  | .ok c => return c
  | .error cause => throw (.report cause)

def resident (q : WorkingSet) : PageReading Nat := do
  return (← counters (← q.openTarget limitedAccess)).workingSet

def footprint (q : WorkingSet) : PageReading Footprint := do
  let process ← q.openTarget readAccess
  let rss := (← counters process).workingSet
  let pages ← countUnshared process workingSetAttempts initialBlocks
  return { rss, uss := some (← ofOutcome (Word.mul pages q.pageSize)) }

end WorkingSet
end HostProbe.Footprint
