import HostProbe.Text.Blank

/-! UTF-8: encoding, strict decoding, and decoding that puts a replacement character for every maximal ill-formed
part. -/
namespace HostProbe

abbrev Bytes := List UInt8

namespace Utf8

def replacement : Char := Char.ofNat 0xFFFD

/-- The decoder between two bytes: at a boundary, or inside a sequence that needs `left` more bytes of which the
next lies between the bounds. -/
inductive State
  | boundary
  | inside (left : Nat) (low high : UInt8) (value : Nat)
  deriving Repr, DecidableEq

/-- What a byte at a boundary begins; `none` marks a byte that begins nothing. -/
def lead (b : UInt8) : Option (Char ⊕ State) :=
  let n := b.toNat
  if n < 0x80 then some (.inl (Char.ofNat n))
  else if n < 0xC2 then none
  else if n < 0xE0 then some (.inr (.inside 1 0x80 0xBF (n - 0xC0)))
  else if n = 0xE0 then some (.inr (.inside 2 0xA0 0xBF 0))
  else if n = 0xED then some (.inr (.inside 2 0x80 0x9F 0xD))
  else if n < 0xF0 then some (.inr (.inside 2 0x80 0xBF (n - 0xE0)))
  else if n = 0xF0 then some (.inr (.inside 3 0x90 0xBF 0))
  else if n < 0xF4 then some (.inr (.inside 3 0x80 0xBF (n - 0xF0)))
  else if n = 0xF4 then some (.inr (.inside 3 0x80 0x8F 4))
  else none

/-- The state with what was decoded so far, newest first; `none` marks an ill-formed part. -/
structure Progress where
  state : State := .boundary
  decoded : List (Option Char) := []

def Progress.begin (decoded : List (Option Char)) (b : UInt8) : Progress :=
  match lead b with
  | some (.inl c) => ⟨.boundary, some c :: decoded⟩
  | some (.inr s) => ⟨s, decoded⟩
  | none => ⟨.boundary, none :: decoded⟩

/-- Takes one byte; a byte that cannot continue a sequence ends it as ill-formed and begins anew. -/
def Progress.step (p : Progress) (b : UInt8) : Progress :=
  match p.state with
  | .boundary => begin p.decoded b
  | .inside left low high value =>
    if low ≤ b ∧ b ≤ high then
      let value := value * 64 + (b.toNat - 0x80)
      if left ≤ 1 then ⟨.boundary, some (Char.ofNat value) :: p.decoded⟩
      else ⟨.inside (left - 1) 0x80 0xBF value, p.decoded⟩
    else begin (none :: p.decoded) b

/-- The decoded characters in order; a sequence cut off by the end is ill-formed. -/
def Progress.finish (p : Progress) : List (Option Char) :=
  (match p.state with
    | .boundary => p.decoded
    | .inside .. => none :: p.decoded).reverse

/-- Characters of the bytes, with `none` for each maximal ill-formed part. -/
def decodeParts (bytes : Bytes) : List (Option Char) := (bytes.foldl Progress.step {}).finish

/-- Every ill-formed part becomes one replacement character. -/
def decodeLossy (bytes : Bytes) : Text := (decodeParts bytes).map fun c => c.getD replacement

def decode? (bytes : Bytes) : Option Text :=
  let parts := decodeParts bytes
  if parts.all Option.isSome then some (parts.filterMap id) else none

def encodeChar (c : Char) : Bytes :=
  let n := c.toNat
  let tail (k : Nat) : UInt8 := UInt8.ofNat (0x80 + (n >>> (6 * k)) % 64)
  if n < 0x80 then [UInt8.ofNat n]
  else if n < 0x800 then [UInt8.ofNat (0xC0 + n / 64), tail 0]
  else if n < 0x10000 then [UInt8.ofNat (0xE0 + n / 4096), tail 1, tail 0]
  else [UInt8.ofNat (0xF0 + n / 262144), tail 2, tail 1, tail 0]

def encode (t : Text) : Bytes := t.flatMap encodeChar

def toString (bytes : Bytes) : String := String.ofList (decodeLossy bytes)

end Utf8
end HostProbe
