import HostProbe.Number.Integer

/-! Floating-point numbers read from decimal text, and their exchange with words. -/
namespace HostProbe.Real

def infinity : Float := 1.0 / 0.0

def nan : Float := 0.0 / 0.0

/-- Nearest float of `digits · 10 ^ exponent`; exponents past every finite float are cut short. -/
def ofDecimal (digits : Nat) (exponent : Int) : Float :=
  if digits = 0 then 0.0
  else
    let size : Int := (Nat.toDigits 10 digits).length
    if exponent + size > 310 then infinity
    else if exponent + size < -345 then 0.0
    else if exponent < 0 then Float.ofScientific digits true exponent.natAbs
    else Float.ofScientific digits false exponent.natAbs

def digitsValue (t : Text) : Nat := t.foldl (fun n c => n * 10 + (c.toNat - 48)) 0

/-- Reads the exponent after its mark: an optional sign and at least one digit. -/
def readExponent? (t : Text) : Option Int :=
  let read (digits : Text) : Option Int :=
    if !digits.isEmpty && digits.all Char.isDigit then
      -- Every exponent of more digits acts like this one.
      let digits := digits.dropWhile (· == '0')
      some (if digits.length > 8 then 100000000 else digitsValue digits)
    else none
  match t with
  | '-' :: digits => (read digits).map fun n => -n
  | '+' :: digits => read digits
  | digits => read digits

/-- Reads digits with an optional point and exponent; at least one digit must stand before the exponent. -/
def readMagnitude? (t : Text) : Option Float :=
  let whole := t.takeWhile Char.isDigit
  let rest := t.dropWhile Char.isDigit
  let (fraction, rest) :=
    match rest with
    | '.' :: rest => (rest.takeWhile Char.isDigit, rest.dropWhile Char.isDigit)
    | rest => ([], rest)
  if whole.isEmpty && fraction.isEmpty then none
  else
    let exponent? :=
      match rest with
      | [] => some 0
      | c :: digits => if c == 'e' || c == 'E' then readExponent? digits else none
    exponent?.map fun exponent => ofDecimal (digitsValue (whole ++ fraction)) (exponent - fraction.length)

/-- Reads an unsigned number, an infinity or a NaN, the names in any case. -/
def readUnsigned? (t : Text) : Option Float :=
  let name := Text.lower t
  if name = "inf".toList || name = "infinity".toList then some infinity
  else if name = "nan".toList then some nan
  else readMagnitude? t

def read? : Text → Option Float
  | '-' :: t => (readUnsigned? t).map fun x => -x
  | '+' :: t => readUnsigned? t
  | t => readUnsigned? t

def ofNat (n : Nat) : Float := Float.ofNat n

def ofInt (n : Int) : Float := Float.ofInt n

/-- Word of the whole part; values outside the word go to its nearer end and a NaN to zero. -/
def toWord (x : Float) : Nat := x.toUInt64.toNat

/-- The smaller number; a NaN gives way to the other. -/
def min (a b : Float) : Float := if a.isNaN then b else if b.isNaN then a else if b < a then b else a

/-- The larger number; a NaN gives way to the other. -/
def max (a b : Float) : Float := if a.isNaN then b else if b.isNaN then a else if a < b then b else a

end HostProbe.Real
