import HostProbe.Text.Blank

/-! The shortest decimal digits that read back as a given float, and the layouts that write them. -/
namespace HostProbe.Real

structure Decimal where
  digits : Nat
  exponent : Int
  deriving Repr, DecidableEq, Inhabited

/-- A positive float and the ends of the interval that rounds to it, in one unit: `value · 2 ^ scale`, and so on. -/
structure Rounding where
  value : Nat
  low : Nat
  high : Nat
  scale : Int
  /-- Whether the ends themselves round to the float. -/
  closed : Bool
  deriving Repr, DecidableEq, Inhabited

/-- The interval of a finite nonzero float of these bits; the gap below a power of two is half the gap above. -/
def Rounding.ofBits (bits : Nat) : Rounding :=
  let stored := (bits >>> 52) % 0x800
  let fraction := bits % (1 <<< 52)
  let mantissa := if stored = 0 then fraction else (1 <<< 52) + fraction
  let exponent : Int := (if stored = 0 then 1 else stored : Nat) - 1075
  ⟨4 * mantissa, 4 * mantissa - (if fraction = 0 && 1 < stored then 1 else 2), 4 * mantissa + 2, exponent - 2,
    mantissa % 2 == 0⟩

/-- The multiple of a power of ten that rounds to the float, the nearer of two neighbours. -/
def Rounding.onGrid? (r : Rounding) (exponent : Int) : Option Nat :=
  let unit := (1 <<< r.scale.toNat) * Nat.pow 10 (-exponent).toNat
  let step := (1 <<< (-r.scale).toNat) * Nat.pow 10 exponent.toNat
  let rounds (n : Nat) : Bool :=
    if r.closed then r.low * unit ≤ n * step && n * step ≤ r.high * unit
    else r.low * unit < n * step && n * step < r.high * unit
  let below := r.value * unit / step
  match rounds below, rounds (below + 1) with
  | true, true =>
    if 2 * (r.value * unit) ≤ (2 * below + 1) * step then some below else some (below + 1)
  | true, false => some below
  | false, true => some (below + 1)
  | false, false => none

def Rounding.refine (r : Rounding) : Nat → Int → Decimal
  | 0, exponent => ⟨0, exponent⟩
  | fuel + 1, exponent =>
    match r.onGrid? exponent with
    | some digits => ⟨digits, exponent⟩
    | none => r.refine fuel (exponent - 1)

/-- The fewest digits that read back, and of those the nearest. -/
def Rounding.shortest (r : Rounding) : Decimal :=
  -- The first grid is wider than the number; seventeen digits always hit.
  let bits : Int := r.scale + r.high.log2 + 1
  r.refine 24 (Int.fdiv (bits * 30103) 100000 + 1)

structure Layout where
  positional : Int → Bool
  /-- What follows a whole number that has no exponent. -/
  whole : Text

namespace Layout

def place (n : Layout) (digits : Text) (point : Int) : Text :=
  if point ≤ 0 then "0.".toList ++ List.replicate (-point).toNat '0' ++ digits
  else if digits.length ≤ point.toNat then
    digits ++ List.replicate (point.toNat - digits.length) '0' ++ n.whole
  else digits.take point.toNat ++ '.' :: digits.drop point.toNat

def scientific (digits : Text) (point : Int) : Text :=
  let fraction := digits.drop 1
  digits.take 1 ++ (if fraction.isEmpty then [] else '.' :: fraction) ++ 'e' :: (toString (point - 1)).toList

def decimal (n : Layout) (d : Decimal) : Text :=
  let digits := Nat.toDigits 10 d.digits
  let point := digits.length + d.exponent
  if n.positional point then n.place digits point else scientific digits point

def write (n : Layout) (x : Float) : String :=
  if x.isNaN then "NaN"
  else
    let bits := x.toBits.toNat
    let size :=
      if x.isInf then "inf".toList
      else if bits % (1 <<< 63) = 0 then '0' :: n.whole
      else n.decimal (Rounding.ofBits bits).shortest
    String.ofList (if 1 <<< 63 ≤ bits then '-' :: size else size)

def plain : Layout := ⟨fun _ => true, []⟩

def pointed : Layout := ⟨fun _ => true, ".0".toList⟩

/-- Digits in place from a ten-thousandth to ten to the sixteenth. -/
def diagnostic : Layout := ⟨fun point => -3 ≤ point && point ≤ 16, ".0".toList⟩

/-- Digits in place from a hundred-thousandth to ten to the sixteenth. -/
def document : Layout := ⟨fun point => -4 ≤ point && point ≤ 16, ".0".toList⟩

end Layout
end HostProbe.Real
