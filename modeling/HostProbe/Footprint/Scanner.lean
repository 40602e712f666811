import HostProbe.Error
import HostProbe.Text.Utf8

/-! Lines of a file that is read piecemeal into a buffer of fixed size. -/
namespace HostProbe

structure Scanner where
  buffer : Bytes := []
  /-- Bytes read from the file so far. -/
  offset : Nat := 0
  /-- Whether the end of the file was met. -/
  ended : Bool := false
  /-- Bytes at the beginning of the buffer that were handed out with the last line. -/
  pending : Nat := 0
  deriving Repr, DecidableEq, Inhabited

namespace Scanner

def capacity : Nat := 8192

/-- The scanner at the beginning of another file, with nothing of the last one. -/
def reset (s : Scanner) : Scanner := { s with buffer := [], offset := 0, ended := false, pending := 0 }

variable {m : Type → Type} [Monad m]

def refill (read : (offset count : Nat) → m (Except IoError Bytes)) (s : Scanner) :
    m (Except IoError Scanner) := do
  if s.ended || s.buffer.length = capacity then return .ok s
  match ← read s.offset (capacity - s.buffer.length) with
  | .error cause => return .error cause
  | .ok bytes =>
    return .ok { s with buffer := s.buffer ++ bytes, offset := s.offset + bytes.length,
                        ended := s.ended || bytes.isEmpty }

def seek (read : (offset count : Nat) → m (Except IoError Bytes)) :
    Nat → Scanner → m (Except IoError (Option Bytes) × Scanner)
  | 0, s => pure (.ok none, s)
  | fuel + 1, s => do
    let line := s.buffer.takeWhile (· != 10)
    if line.length < s.buffer.length then return (.ok (some line), { s with pending := line.length + 1 })
    if s.ended then
      if s.buffer.isEmpty then return (.ok none, s)
      return (.ok (some s.buffer), { s with pending := s.buffer.length })
    if s.buffer.length = capacity then
      return (.error (.custom .invalidData "line exceeds scanner buffer"), s)
    match ← s.refill read with
    | .error cause => return (.error cause, s)
    | .ok s => seek read fuel s

def nextLine (read : (offset count : Nat) → m (Except IoError Bytes)) (s : Scanner) :
    m (Except IoError (Option Bytes) × Scanner) :=
  -- Every read but the last adds a byte to the buffer.
  seek read (capacity + 2) { s with buffer := s.buffer.drop s.pending, pending := 0 }

end Scanner
end HostProbe
