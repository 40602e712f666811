import HostProbe.Word

/-! Kernel tables whose size is not known beforehand: a query is repeated with larger buffers until its answer
fits, within a policy on sizes and attempts. -/
namespace HostProbe

/-- Bounds on the buffers handed to the kernel: their size in bytes and the number of attempts. -/
structure BufferPolicy where
  maxSize : Nat := 256 * 1024 * 1024
  maxAttempts : Nat := 16
  deriving Repr, DecidableEq, Inhabited

namespace BufferPolicy

def withMaxSize (p : BufferPolicy) (size : Nat) : BufferPolicy := { p with maxSize := size }

/-- At least one attempt is always made. -/
def withMaxAttempts (p : BufferPolicy) (attempts : Nat) : BufferPolicy := { p with maxAttempts := max attempts 1 }

end BufferPolicy

class BufferElement (α : Type) where
  zero : α

instance : BufferElement UInt8 := ⟨0⟩

instance : BufferElement UInt16 := ⟨0⟩

instance : BufferElement Nat := ⟨0⟩

/-- A buffer of a length whose elements are zero behind the written ones. -/
structure Buffer (α : Type) where
  written : List α
  length : Nat
  deriving Repr, DecidableEq, Inhabited

namespace Buffer

variable {α : Type}

def zeroed (length : Nat) : Buffer α := ⟨[], length⟩

def fill (b : Buffer α) (elements : List α) : Buffer α := { b with written := elements.take b.length }

def first [BufferElement α] (b : Buffer α) (count : Nat) : List α :=
  let count := min count b.length
  let written := b.written.take count
  written ++ List.replicate (count - written.length) BufferElement.zero

def toList [BufferElement α] (b : Buffer α) : List α := b.first b.length

end Buffer

abbrev MemoryWord := Vector UInt8 8

instance : BufferElement MemoryWord := ⟨Vector.replicate 8 0⟩

namespace MemoryWord

/-- The words that hold the given bytes; behind them the last word is zero. -/
def ofBytes : List UInt8 → List MemoryWord
  | [] => []
  | b :: rest => Vector.ofFn (fun i => (b :: rest).getD i 0) :: ofBytes (rest.drop 7)
termination_by bytes => bytes.length
decreasing_by
  rw [List.length_drop, List.length_cons]
  omega

def toBytes (words : List MemoryWord) : List UInt8 := words.flatMap Vector.toList

end MemoryWord

namespace Buffer

def asBytes (b : Buffer MemoryWord) : Buffer UInt8 := ⟨MemoryWord.toBytes b.written, b.length * 8⟩

def asWords (b : Buffer UInt8) : Buffer MemoryWord := ⟨MemoryWord.ofBytes b.written, b.length / 8⟩

end Buffer

/-- How an attempt with one buffer went: the elements written, or that more room is needed, and how much where the
kernel tells. -/
inductive Attempt (β : Type)
  | done (result : β)
  | tooSmall (needed : Option Nat)
  deriving Repr, Inhabited

namespace Growth

structure Allocator where
  grants : (bytes : Nat) → Bool

/-- Grants whatever a 47-bit address space holds. -/
def Allocator.standard : Allocator := ⟨fun bytes => bytes < 1 <<< 47⟩

/-- The length after an attempt that lacked room: twice the last, or an eighth above what was told. -/
def next (length : Nat) (needed : Option Nat) : Nat :=
  let doubled := Word.saturatingMul length 2
  match needed with
  | some n => max (Word.saturatingAdd n (n / 8)) doubled
  | none => doubled

def exhausted (call detail : String) : Fault := .report (.os call (.custom .other detail))

/-- Refuses a length whose buffer cannot be allocated. Elements that take no room need no allocation. -/
def allocate (allocator : Allocator) (elementSize length : Nat) : Outcome Unit :=
  if length * elementSize = 0 ∨ allocator.grants (length * elementSize) then .ok ()
  else Outcome.report (.outOfMemory (Word.saturatingMul length elementSize))

variable {m : Type → Type} [Monad m] {β : Type}

def loop (policy : BufferPolicy) (allocator : Allocator) (elementSize : Nat) (call : String)
    (attempt : Nat → ExceptT Fault m (Attempt β)) : (remaining length : Nat) → ExceptT Fault m β
  | 0, _ => throw (exhausted call s!"buffer still too small after {policy.maxAttempts} attempts")
  | remaining + 1, length => do
    if length > policy.maxSize / max elementSize 1 then
      throw (exhausted call s!"buffer would exceed {policy.maxSize} bytes")
    let () ← liftM (allocate allocator elementSize length : Except Fault Unit)
    match ← attempt length with
    | .done result => pure result
    | .tooSmall needed => loop policy allocator elementSize call attempt remaining (next length needed)

/-- One round of the loop: the length is refused, or its buffer is, or the attempt decides. -/
theorem loop_succ [LawfulMonad m] (policy : BufferPolicy) (allocator : Allocator) (elementSize : Nat) (call : String)
    (attempt : Nat → ExceptT Fault m (Attempt β)) (remaining length : Nat) :
    loop policy allocator elementSize call attempt (remaining + 1) length =
      if length > policy.maxSize / max elementSize 1 then
        throw (exhausted call s!"buffer would exceed {policy.maxSize} bytes")
      else (do
        let () ← liftM (allocate allocator elementSize length : Except Fault Unit)
        match ← attempt length with
        | .done result => pure result
        | .tooSmall needed => loop policy allocator elementSize call attempt remaining (next length needed)) := by
  rw [loop]
  split
  · apply ExceptT.ext
    rw [ExceptT.run_bind, ExceptT.run_throw, pure_bind]
    rfl
  · rfl

def untilDone (policy : BufferPolicy) (allocator : Allocator) (elementSize : Nat) (call : String)
    (initial : Nat) (attempt : Nat → ExceptT Fault m (Attempt β)) : ExceptT Fault m β :=
  loop policy allocator elementSize call attempt policy.maxAttempts (max initial 1)

/-- Fills larger and larger zeroed buffers until one holds the answer; the answer is the filled buffer cut to the
count that was written. -/
def untilFits {α : Type} [BufferElement α] (policy : BufferPolicy) (elementSize : Nat) (call : String) (initial : Nat)
    (fill : Buffer α → ExceptT Fault m (Attempt (Buffer α × Nat)))
    (allocator : Allocator := Allocator.standard) : ExceptT Fault m (List α) :=
  untilDone policy allocator elementSize call initial fun length => do
    match ← fill (Buffer.zeroed length) with
    | .done (buffer, written) => pure (.done (buffer.first (min written length)))
    | .tooSmall needed => pure (.tooSmall needed)

def wordsFor (bytes : Nat) : Nat := (bytes + 7) / 8

/-- Attempts the query with larger and larger buffers of whole words, told by their size in bytes. -/
def wordsUntilDone (policy : BufferPolicy) (call : String) (initial : Nat)
    (attempt : Nat → ExceptT Fault m (Attempt β)) (allocator : Allocator := Allocator.standard) : ExceptT Fault m β :=
  untilDone policy allocator 8 call (wordsFor initial) fun words => do
    match ← attempt (words * 8) with
    | .done result => pure (.done result)
    | .tooSmall needed => pure (.tooSmall (needed.map wordsFor))

/-- Lets bytes be written into a buffer of words. Lengths are then told in words, and the number of bytes that were
written is kept apart. -/
def fillWords (fill : Buffer UInt8 → ExceptT Fault m (Attempt (Buffer UInt8 × Nat))) (words : Buffer MemoryWord) :
    ExceptT Fault (StateT Nat m) (Attempt (Buffer MemoryWord × Nat)) := do
  let buffer := words.asBytes
  match ← ExceptT.mk (StateT.lift (fill buffer).run) with
  | .done (filled, count) =>
    let count := min count buffer.length
    set count
    return .done ((buffer.fill filled.written).asWords, wordsFor count)
  | .tooSmall needed => return .tooSmall (needed.map wordsFor)

/-- Fills larger and larger buffers of whole words with bytes. The answer is as many bytes of the words as were
written. -/
def alignedUntilFits (policy : BufferPolicy) (call : String) (initial : Nat)
    (fill : Buffer UInt8 → ExceptT Fault m (Attempt (Buffer UInt8 × Nat)))
    (allocator : Allocator := Allocator.standard) : ExceptT Fault m (List UInt8) :=
  ExceptT.mk do
    let (words, count) ← (untilFits policy 8 call (wordsFor initial) (fillWords fill) allocator).run.run 0
    return words.map fun words => (MemoryWord.toBytes words).take count

end Growth

def ensureNonempty {α : Type} (call : String) (records : List α) : Outcome (List α) :=
  if records.isEmpty then Outcome.report (.os call (.custom .unexpectedEnd "kernel returned no records"))
  else .ok records

end HostProbe
