import HostProbe.Text.Utf8

/-! UTF-16 in native units: encoding, and decoding that puts a replacement character for every lone surrogate. -/
namespace HostProbe.Utf16

/-- Units of one character: two for those past the basic plane. -/
def encodeChar (c : Char) : List UInt16 :=
  let n := c.toNat
  if n < 0x10000 then [UInt16.ofNat n]
  else [UInt16.ofNat (0xD800 + (n - 0x10000) / 1024), UInt16.ofNat (0xDC00 + (n - 0x10000) % 1024)]

def encode (t : Text) : List UInt16 := t.flatMap encodeChar

def isHigh (u : UInt16) : Bool := 0xD800 ≤ u && u < 0xDC00

def isLow (u : UInt16) : Bool := 0xDC00 ≤ u && u < 0xE000

/-- A high surrogate that waits for its partner, with the characters decoded so far, newest first. -/
structure Progress where
  high : Option UInt16 := none
  decoded : Text := []

/-- Takes one unit; a surrogate without its partner becomes a replacement character. -/
def Progress.step (p : Progress) (u : UInt16) : Progress :=
  match p.high with
  | some h =>
    if isLow u then
      ⟨none, Char.ofNat (0x10000 + (h.toNat - 0xD800) * 1024 + (u.toNat - 0xDC00)) :: p.decoded⟩
    else if isHigh u then ⟨some u, Utf8.replacement :: p.decoded⟩
    else ⟨none, Char.ofNat u.toNat :: Utf8.replacement :: p.decoded⟩
  | none =>
    if isHigh u then ⟨some u, p.decoded⟩
    else if isLow u then ⟨none, Utf8.replacement :: p.decoded⟩
    else ⟨none, Char.ofNat u.toNat :: p.decoded⟩

def decodeLossy (units : List UInt16) : Text :=
  let p := units.foldl Progress.step {}
  (match p.high with
    | some _ => Utf8.replacement :: p.decoded
    | none => p.decoded).reverse

def toString (units : List UInt16) : String := String.ofList (decodeLossy units)

end HostProbe.Utf16
