import HostProbe.Bytes
import HostProbe.Number.Integer
import HostProbe.Word

/-! Strings in the memory of another process, reached through vectors of pointers. -/
namespace HostProbe

/-- Memory that is read piecemeal: a read at an address gives at most so many bytes, and none at its end. -/
structure AddressSpace (m : Type → Type) where
  read : (address count : Nat) → m (Except IoError Bytes)
  pointerSize : Nat

namespace AddressSpace

/-- Strings are cut once they reach this many bytes. -/
def maxString : Nat := 128 * 1024

/-- Environment vectors are followed for so many entries. -/
def maxEntries : Nat := 8 * 1024

def chunkSize : Nat := 256

variable {m : Type → Type} [Monad m]

def new (read : (address count : Nat) → m (Except IoError Bytes)) (pointerSize : Nat) : AddressSpace m :=
  ⟨read, if pointerSize = 4 then 4 else 8⟩

def readError (address : Nat) (cause : IoError) : Fault := .report (.os s!"pread(as, 0x{Integer.toHex address})" cause)

/-- One read whose failure names the address. -/
def readAt (space : AddressSpace m) (address count : Nat) : ExceptT Fault m Bytes := do
  match ← (space.read address count : m _) with
  | .ok bytes => return bytes
  | .error cause => throw (readError address cause)

/-- Reads on until the count is reached; the end of the memory before that is an error. -/
def readExact (space : AddressSpace m) (address count : Nat) : ExceptT Fault m Bytes :=
  go count []
where
  go : Nat → Bytes → ExceptT Fault m Bytes
    | 0, found => pure found
    | fuel + 1, found => do
      if found.length ≥ count then return found
      let at' ← liftM (Word.add address found.length)
      let more ← space.readAt at' (count - found.length)
      if more.isEmpty then throw (readError at' (.bare .unexpectedEnd))
      go fuel (found ++ more)

def pointer (space : AddressSpace m) (address : Nat) : ExceptT Fault m Nat := do
  return Bytes.toNat (← space.readExact address space.pointerSize)

def stringBytes (space : AddressSpace m) (address : Nat) : ExceptT Fault m Bytes :=
  go maxString 0 []
where
  go : Nat → Nat → List Bytes → ExceptT Fault m Bytes
    | 0, _, chunks => pure chunks.reverse.flatten
    | fuel + 1, length, chunks => do
      if length ≥ maxString then return chunks.reverse.flatten
      let at' ← liftM (Word.add address length)
      let chunk ← space.readAt at' chunkSize
      let text := Bytes.untilNul chunk
      if text.length < chunk.length || chunk.isEmpty then return (text :: chunks).reverse.flatten
      go fuel (length + chunk.length) (chunk :: chunks)

def string (space : AddressSpace m) (address : Nat) : ExceptT Fault m String := do
  return Utf8.toString (← space.stringBytes address)

def strings (space : AddressSpace m) (vector count : Nat) : ExceptT Fault m (List String) :=
  go count 0 []
where
  go : Nat → Nat → List String → ExceptT Fault m (List String)
    | 0, _, found => pure found.reverse
    | fuel + 1, i, found => do
      let p ← space.pointer (← liftM (Word.add vector (i * space.pointerSize)))
      if p = 0 then return found.reverse
      go fuel (i + 1) ((← space.string p) :: found)

def argv (space : AddressSpace m) (vector count : Nat) : ExceptT Fault m (List String) := space.strings vector count

def envp (space : AddressSpace m) (vector : Nat) : ExceptT Fault m (List String) := space.strings vector maxEntries

end AddressSpace
end HostProbe
