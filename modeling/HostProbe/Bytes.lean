import HostProbe.Text.Utf8

/-! Numbers, records and strings held in the bytes that a kernel hands out. -/
namespace HostProbe.Bytes

def toNat (bytes : Bytes) : Nat := bytes.foldr (fun b n => n * 256 + b.toNat) 0

def toNatBig (bytes : Bytes) : Nat := bytes.foldl (fun n b => n * 256 + b.toNat) 0

def ofNat : (size : Nat) → Nat → Bytes
  | 0, _ => []
  | size + 1, n => UInt8.ofNat n :: ofNat size (n / 256)

theorem length_ofNat (size n : Nat) : (ofNat size n).length = size := by
  induction size generalizing n with
  | zero => rfl
  | succ size ih => simp [ofNat, ih]

def slice? (bytes : Bytes) (offset size : Nat) : Option Bytes :=
  let rest := bytes.drop offset
  let found := rest.take size
  if found.length = size ∧ (size ≠ 0 ∨ offset ≤ bytes.length) then some found else none

/-- Consecutive pieces of one size; bytes too few for a last piece are left out. -/
def records (size : Nat) (bytes : Bytes) : List Bytes :=
  if size = 0 then [] else go (bytes.length / size) bytes []
where
  go : Nat → Bytes → List Bytes → List Bytes
    | 0, _, found => found.reverse
    | n + 1, rest, found => go n (rest.drop size) (rest.take size :: found)

/-- Unsigned number of a field; bytes past the end count as zero. -/
def natAt (bytes : Bytes) (offset size : Nat) : Nat := toNat ((bytes.drop offset).take size)

/-- Two's complement number of a field. -/
def intAt (bytes : Bytes) (offset size : Nat) : Int := Int.bmod (natAt bytes offset size) (1 <<< (8 * size))

/-- The field's bytes before its first zero byte, or all of them. -/
def untilNul (bytes : Bytes) : Bytes := bytes.takeWhile (· != 0)

def cString (bytes : Bytes) : String := Utf8.toString (untilNul bytes)

def stringAt (bytes : Bytes) (offset size : Nat) : String := cString ((bytes.drop offset).take size)

/-- Entries that zero bytes end; the last one may lack its own. -/
def splitNul (block : Bytes) : List Bytes :=
  let block := if block.getLast? = some 0 then block.dropLast else block
  if block.isEmpty then [] else block.splitOn 0

def splitNulStrings (block : Bytes) : List String := (splitNul block).map Utf8.toString

end HostProbe.Bytes
