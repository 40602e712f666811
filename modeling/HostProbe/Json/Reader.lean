import HostProbe.Json
import HostProbe.Number.Real
import HostProbe.Text.Utf16

/-! Documents read from text: the text is cut into tokens, and the tokens are put together on a stack of open lists and
objects. Of two members of one name the later one stays. -/
namespace HostProbe.Json

def setMember (name : String) (value : Json) : List (String × Json) → List (String × Json)
  | [] => [(name, value)]
  | (k, v) :: rest => if k = name then (k, value) :: rest else (k, v) :: setMember name value rest

inductive Token
  | openList
  | closeList
  | openObject
  | closeObject
  | comma
  | colon
  | scalar (j : Json)
  deriving Inhabited

namespace Token

def isSpace (c : Char) : Bool := c == ' ' || c == '\n' || c == '\t' || c == '\r'

def fourDigits? : Text → Option (Nat × Text)
  | a :: b :: c :: d :: rest => do
    let digits ← [a, b, c, d].mapM (Integer.digit? 16)
    return (digits.foldl (fun n digit => n * 16 + digit) 0, rest)
  | _ => none

/-- The character of an escape, and what follows it; characters outside the basic plane are written as a pair. -/
def escape? : Text → Option (Char × Text)
  | '"' :: rest => some ('"', rest)
  | '\\' :: rest => some ('\\', rest)
  | '/' :: rest => some ('/', rest)
  | 'b' :: rest => some ('\x08', rest)
  | 'f' :: rest => some ('\x0c', rest)
  | 'n' :: rest => some ('\n', rest)
  | 'r' :: rest => some ('\r', rest)
  | 't' :: rest => some ('\t', rest)
  | 'u' :: rest => do
    let (unit, rest) ← fourDigits? rest
    if Utf16.isHigh (UInt16.ofNat unit) then
      match rest with
      | '\\' :: 'u' :: rest =>
        let (low, rest) ← fourDigits? rest
        if Utf16.isLow (UInt16.ofNat low) then
          return (Char.ofNat (0x10000 + (unit - 0xD800) * 0x400 + (low - 0xDC00)), rest)
        else none
      | _ => none
    else if Utf16.isLow (UInt16.ofNat unit) then none
    else return (Char.ofNat unit, rest)
  | _ => none

/-- The text up to the closing quote, and what follows it; the fuel is a bound on its length. -/
def quoted? : Nat → Text → Text → Option (Text × Text)
  | 0, _, _ => none
  | fuel + 1, found, t =>
    match t with
    | '"' :: rest => some (found.reverse, rest)
    | '\\' :: rest =>
      match escape? rest with
      | some (c, rest) => quoted? fuel (c :: found) rest
      | none => none
    | c :: rest => if c.toNat < 0x20 then none else quoted? fuel (c :: found) rest
    | [] => none

/-- Digits of a number that fit a word, and the power of ten that stands for the others. -/
structure Significand where
  value : Nat := 0
  exponent : Int := 0
  full : Bool := false

/-- Takes a digit before the point; once the word is full, digits only count. -/
def Significand.whole (s : Significand) (c : Char) : Significand :=
  let next := s.value * 10 + (c.toNat - 48)
  if s.full || 1 <<< 64 ≤ next then { s with exponent := s.exponent + 1, full := true } else { s with value := next }

/-- Takes a digit behind the point; the first one that does not fit ends the number. -/
def Significand.fraction (s : Significand) (c : Char) : Significand :=
  let next := s.value * 10 + (c.toNat - 48)
  if s.full then s
  else if 1 <<< 64 ≤ next then { s with full := true }
  else { s with value := next, exponent := s.exponent - 1 }

/-- The float of a word times a power of ten, by one rounded multiplication or division for each 308 places. -/
def scale? : Nat → Float → Int → Option Float
  | 0, x, _ => some x
  | fuel + 1, x, exponent =>
    if exponent.natAbs ≤ 308 then
      let power := Real.ofDecimal 1 exponent.natAbs
      if 0 ≤ exponent then
        let y := x * power
        if y.isInf then none else some y
      else some (x / power)
    else if x == 0.0 then some x
    else if 0 ≤ exponent then none
    else scale? fuel (x / Real.ofDecimal 1 308) (exponent + 308)

def exponent? (t : Text) : Option (Int × Text) :=
  let (negative, t) := match t with
    | '-' :: rest => (true, rest)
    | '+' :: rest => (false, rest)
    | t => (false, t)
  let digits := t.takeWhile Char.isDigit
  if digits.isEmpty then none
  else
    let size : Int := Real.digitsValue digits
    some (if negative then -size else size, t.dropWhile Char.isDigit)

/-- A number without its sign, and what follows it: whole numbers of a word stay whole. -/
def number? (negative : Bool) (t : Text) : Option (Json × Text) :=
  let whole := t.takeWhile Char.isDigit
  let rest := t.dropWhile Char.isDigit
  if whole.isEmpty || (whole.head? == some '0' && 1 < whole.length) then none
  else
    let significand := whole.foldl Significand.whole {}
    let float? (s : Significand) (shift : Int) : Option Json :=
      (scale? 5 (Real.ofNat s.value) (s.exponent + shift)).map fun x => .real (if negative then -x else x)
    let finish (s : Significand) (isWhole : Bool) : Text → Option (Json × Text)
      | c :: rest =>
        if c == 'e' || c == 'E' then do
          let (shift, rest) ← exponent? rest
          return (← float? s shift, rest)
        else if isWhole then return (.int s.value, c :: rest)
        else return (← float? s 0, c :: rest)
      | [] => if isWhole then some (.int s.value, []) else (float? s 0).map (·, [])
    match rest with
    | '.' :: rest =>
      let digits := rest.takeWhile Char.isDigit
      if digits.isEmpty then none
      else
        finish (digits.foldl Significand.fraction { significand with full := false }) false
          (rest.dropWhile Char.isDigit)
    | rest =>
      let fits := !significand.full && (!negative || (0 < significand.value && significand.value ≤ 1 <<< 63))
      (finish significand fits rest).map fun (j, rest) =>
        (match j with
          | .int n => .int (if negative then -n else n)
          | j => j, rest)

def first? : Text → Option (Token × Text)
  | '[' :: rest => some (openList, rest)
  | ']' :: rest => some (closeList, rest)
  | '\x7b' :: rest => some (openObject, rest)
  | '\x7d' :: rest => some (closeObject, rest)
  | ',' :: rest => some (comma, rest)
  | ':' :: rest => some (colon, rest)
  | 't' :: 'r' :: 'u' :: 'e' :: rest => some (scalar (.bool true), rest)
  | 'f' :: 'a' :: 'l' :: 's' :: 'e' :: rest => some (scalar (.bool false), rest)
  | 'n' :: 'u' :: 'l' :: 'l' :: rest => some (scalar .null, rest)
  | '"' :: rest => (quoted? (rest.length + 1) [] rest).map fun (t, rest) => (scalar (.text (String.ofList t)), rest)
  | '-' :: rest => (number? true rest).map fun (j, rest) => (scalar j, rest)
  | t => (number? false t).map fun (j, rest) => (scalar j, rest)

/-- All tokens; the fuel is a bound on the text's length. -/
def all? : Nat → Text → Option (List Token)
  | 0, _ => none
  | fuel + 1, t =>
    match t.dropWhile isSpace with
    | [] => some []
    | t => do
      let (token, rest) ← first? t
      return token :: (← all? fuel rest)

end Token

inductive Frame
  | list (items : List Json)
  | object (members : List (String × Json)) (name : String)
  deriving Inhabited

inductive Expected
  | item
  | itemOrEnd
  | name
  | nameOrEnd
  | colon
  | separator
  | nothing
  deriving Repr, DecidableEq, Inhabited

structure Assembly where
  frames : List Frame := []
  expected : Expected := .item
  document : Json := .null
  deriving Inhabited

namespace Assembly

def complete (a : Assembly) (j : Json) : Assembly :=
  match a.frames with
  | [] => { a with document := j, expected := .nothing }
  | .list items :: rest => { a with frames := .list (j :: items) :: rest, expected := .separator }
  | .object members name :: rest =>
    { a with frames := .object (setMember name j members) name :: rest, expected := .separator }

/-- Opens a list or an object; 127 may be open at a time. -/
def enter? (a : Assembly) (frame : Frame) (expected : Expected) : Option Assembly :=
  if a.frames.length < 127 then some { a with frames := frame :: a.frames, expected } else none

def leave? (a : Assembly) : Option Assembly :=
  match a.frames with
  | [] => none
  | .list items :: rest => some ({ a with frames := rest }.complete (.list items.reverse))
  | .object members _ :: rest => some ({ a with frames := rest }.complete (.object members))

def take? (a : Assembly) (token : Token) : Option Assembly :=
  match a.expected, token, a.frames with
  | .item, .openList, _ | .itemOrEnd, .openList, _ => a.enter? (.list []) .itemOrEnd
  | .item, .openObject, _ | .itemOrEnd, .openObject, _ => a.enter? (.object [] "") .nameOrEnd
  | .item, .scalar j, _ | .itemOrEnd, .scalar j, _ => some (a.complete j)
  | .itemOrEnd, .closeList, _ => a.leave?
  | .name, .scalar (.text name), .object members _ :: rest | .nameOrEnd, .scalar (.text name), .object members _ :: rest =>
    some { a with frames := .object members name :: rest, expected := .colon }
  | .nameOrEnd, .closeObject, _ => a.leave?
  | .colon, .colon, _ => some { a with expected := .item }
  | .separator, .comma, .list _ :: _ => some { a with expected := .item }
  | .separator, .comma, .object .. :: _ => some { a with expected := .name }
  | .separator, .closeList, .list _ :: _ => a.leave?
  | .separator, .closeObject, .object .. :: _ => a.leave?
  | _, _, _ => none

end Assembly

def read? (t : Text) : Option Json := do
  let tokens ← Token.all? (t.length + 1) t
  let whole ← tokens.foldlM Assembly.take? {}
  if whole.expected = .nothing then some whole.document else none

end HostProbe.Json
