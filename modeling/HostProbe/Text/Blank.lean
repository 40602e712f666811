/-! Text as a list of characters, and the ways the parsers cut it at blanks, line ends and separators. -/
namespace HostProbe

abbrev Text := List Char

/-- What holds of a text's characters is decided from these, not from all characters there are. -/
instance (t : Text) (p : Char → Prop) [DecidablePred p] : Decidable (∀ c ∈ t, p c) := List.decidableBAll p t

/-- The characters with the Unicode property White_Space. -/
def isBlank (c : Char) : Bool :=
  let n := c.toNat
  (9 ≤ n && n ≤ 13) || n == 0x20 || n == 0x85 || n == 0xA0 || n == 0x1680 || (0x2000 ≤ n && n ≤ 0x200A)
    || n == 0x2028 || n == 0x2029 || n == 0x202F || n == 0x205F || n == 0x3000

namespace Text

def trimStart (t : Text) : Text := t.dropWhile isBlank

def trimEnd (t : Text) : Text := (t.reverse.dropWhile isBlank).reverse

def trim (t : Text) : Text := trimEnd (trimStart t)

def words (t : Text) : List Text := (t.splitOnP isBlank).filter fun w => !w.isEmpty

def dropReturn (t : Text) : Text :=
  match t.reverse with
  | '\r' :: r => r.reverse
  | _ => t

/-- Lines end at a newline, with or without a carriage return before it; only an empty last line is left out, and
an unterminated one keeps its carriage return. -/
def lines (t : Text) : List Text :=
  match (t.splitOn '\n').reverse with
  | [] => []
  | last :: ended => ended.reverse.map dropReturn ++ if last.isEmpty then [] else [last]

def splitAtFirst (p : Char → Bool) (t : Text) : Option (Text × Text) :=
  match t.dropWhile fun c => !p c with
  | [] => none
  | _ :: after => some (t.takeWhile fun c => !p c, after)

def splitOnce (separator : Char) (t : Text) : Option (Text × Text) := splitAtFirst (· == separator) t

def dropPrefix? (start t : Text) : Option Text := start.isPrefixOf? t

def dropSuffix? (ending t : Text) : Option Text := (ending.reverse.isPrefixOf? t.reverse).map List.reverse

def byteLength (t : Text) : Nat := t.foldl (fun n c => n + c.utf8Size) 0

def join (separator : Text) (pieces : List Text) : Text := separator.intercalate pieces

/-- Lower-case form of the ASCII letters; other characters stay. -/
def lower (t : Text) : Text := t.map Char.toLower

/-- Order of code points, which is also the order of the UTF-8 forms. -/
def le (a b : Text) : Bool := !(decide (b < a))

end Text
end HostProbe
