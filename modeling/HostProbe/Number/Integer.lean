import HostProbe.Text.Blank

/-! Integers read from text: an optional sign and digits of a base, within the bounds of the wanted type. -/
namespace HostProbe

inductive IntegerFault
  | empty
  | invalidDigit
  | tooLarge
  | tooSmall
  deriving Repr, DecidableEq, Inhabited

def IntegerFault.message : IntegerFault → String
  | empty => "cannot parse integer from empty string"
  | invalidDigit => "invalid digit found in string"
  | tooLarge => "number too large to fit in target type"
  | tooSmall => "number too small to fit in target type"

namespace Integer

def digit? (base : Nat) (c : Char) : Option Nat :=
  let n := c.toNat
  let value :=
    if 48 ≤ n ∧ n ≤ 57 then n - 48
    else if 97 ≤ n ∧ n ≤ 122 then n - 87
    else if 65 ≤ n ∧ n ≤ 90 then n - 55
    else base
  if value < base then some value else none

/-- Reads digits onto a value; the first digit that is none, or that passes the largest value, decides. -/
def readDigits (base largest : Nat) (overflow : IntegerFault) : Nat → Text → Except IntegerFault Nat
  | value, [] => .ok value
  | value, c :: rest =>
    match digit? base c with
    | none => .error .invalidDigit
    | some d =>
      if value * base + d ≤ largest then readDigits base largest overflow (value * base + d) rest
      else .error overflow

/-- Reads an unsigned number of at most `largest`; a plus sign may stand before the digits. -/
def unsigned (base largest : Nat) : Text → Except IntegerFault Nat
  | [] => .error .empty
  | ['+'] => .error .invalidDigit
  | '+' :: digits => readDigits base largest .tooLarge 0 digits
  | digits => readDigits base largest .tooLarge 0 digits

/-- Reads a decimal number from `-(largest + 1)` to `largest`; either sign may stand before the digits. -/
def signed (largest : Nat) : Text → Except IntegerFault Int
  | [] => .error .empty
  | ['+'] | ['-'] => .error .invalidDigit
  | '-' :: digits => (readDigits 10 (largest + 1) .tooSmall 0 digits).map fun n => -(n : Int)
  | '+' :: digits => (readDigits 10 largest .tooLarge 0 digits).map Int.ofNat
  | digits => (readDigits 10 largest .tooLarge 0 digits).map Int.ofNat

def word (t : Text) : Except IntegerFault Nat := unsigned 10 0xffffffffffffffff t

def word? (t : Text) : Option Nat := (word t).toOption

def word32? (t : Text) : Option Nat := (unsigned 10 0xffffffff t).toOption

def int64? (t : Text) : Option Int := (signed 0x7fffffffffffffff t).toOption

def int32? (t : Text) : Option Int := (signed 0x7fffffff t).toOption

def hex? (largest : Nat) (t : Text) : Option Nat := (unsigned 16 largest t).toOption

def toHex (n : Nat) : String := String.ofList (Nat.toDigits 16 n)

def byteHex (b : UInt8) : Text :=
  let d := Nat.toDigits 16 b.toNat
  if b < 16 then '0' :: d else d

end Integer
end HostProbe
