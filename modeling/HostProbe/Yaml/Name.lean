import HostProbe.Bytes
import HostProbe.Number.Integer
import HostProbe.Yaml.Token

/-! Names in a YAML text: anchors, tags and the directives on them. -/
namespace HostProbe.Yaml

/-! ### Tags

Tags of nodes say what kind of value stands there. They are kept as bytes, since what is written with percent signs need
not be text. -/

structure Tag where
  bytes : Bytes
  deriving Repr, DecidableEq, Inhabited

inductive Kind
  | boolean
  | integer
  | real
  | null
  deriving Repr, DecidableEq, Inhabited

namespace Tag

def mark : UInt8 := 0x21

def common : String := "tag:yaml.org,2002:"

def kinds : List (String × Kind) := [("bool", .boolean), ("int", .integer), ("float", .real), ("null", .null)]

def ofString (s : String) : Tag := ⟨Utf8.encode s.toList⟩

def kind? (t : Tag) : Option Kind := (kinds.find? fun (ending, _) => t = ofString (common ++ ending)).map (·.2)

def isLocal (t : Tag) : Bool := t.bytes.head? == some mark

/-- The name of a local tag: what follows the mark, or the mark itself where nothing does. Bytes that are no text give
no name. -/
def localName? (t : Tag) : Option String :=
  if t.isLocal then (Utf8.decode? (if t.bytes.length = 1 then t.bytes else t.bytes.drop 1)).map String.ofList else none

end Tag

/-! ### Reading names -/

/-- The name of an anchor or an alias behind its sign, and what follows it. -/
def anchorName (isAlias : Bool) (c : Cursor) : Except Fault (String × Cursor) :=
  let start := c.mark
  let c := c.skip
  let name := c.rest.takeWhile isWord
  let c := c.skip name.length
  if name.isEmpty || !(c.wordEnds || c.sees fun ch => "?:,]\x7d%@`".toList.contains ch) then
    c.fault (if isAlias then "while scanning an alias" else "while scanning an anchor") start
      "did not find expected alphabetic or numeric character"
  else .ok (String.ofList name, c)

/-- What a fault in a tag, or in a directive on tags, is said to stand in. -/
def tagContext (directive : Bool) (verb : String) : String :=
  s!"while {verb} a " ++ if directive then "directive" else "tag"

def tagHandle (directive : Bool) (start : Mark) (c : Cursor) : Except Fault (Text × Cursor) :=
  if !c.sees (· == '!') then c.fault (tagContext directive "scanning") start "did not find expected '!'"
  else
    let name := c.skip.rest.takeWhile isWord
    let after := c.skip.skip name.length
    if after.sees (· == '!') then .ok ('!' :: name ++ ['!'], after.skip)
    else if directive && !name.isEmpty then
      after.fault "while parsing a tag directive" start "did not find expected '!'"
    else .ok ('!' :: name, after)

def isTagChar (verbatim : Bool) (c : Char) : Bool :=
  isWord c || ";/?:@&=+$.!~*'()%".toList.contains c || (verbatim && ",[]".toList.contains c)

def percentBytes (context : String) (start : Mark) : Nat → Nat → Bytes → Cursor → Except Fault (Bytes × Cursor)
  | 0, _, found, c => .ok (found.reverse, c)
  | fuel + 1, due, found, c =>
    match c.rest with
    | '%' :: a :: b :: _ =>
      match Integer.digit? 16 a, Integer.digit? 16 b with
      | some high, some low =>
        let byte := UInt8.ofNat (high * 16 + low)
        let c := c.skip 3
        if due == 0 then
          let width :=
            if byte &&& 0x80 == 0 then 1
            else if byte &&& 0xE0 == 0xC0 then 2
            else if byte &&& 0xF0 == 0xE0 then 3
            else if byte &&& 0xF8 == 0xF0 then 4
            else 0
          if width == 0 then c.fault context start "found an incorrect leading UTF-8 octet"
          else if width == 1 then .ok ([byte], c)
          else percentBytes context start fuel (width - 1) [byte] c
        else if byte &&& 0xC0 != 0x80 then c.fault context start "found an incorrect trailing UTF-8 octet"
        else if due == 1 then .ok ((byte :: found).reverse, c)
        else percentBytes context start fuel (due - 1) (byte :: found) c
      | _, _ => c.fault context start "did not find URI escaped octet"
    | _ => c.fault context start "did not find URI escaped octet"

def tagBytes (directive verbatim : Bool) (start : Mark) : Nat → Bytes → Cursor → Except Fault (Bytes × Cursor)
  | 0, found, c => .ok (found.reverse, c)
  | fuel + 1, found, c =>
    match c.peek? 0 with
    | some '%' =>
      match percentBytes (tagContext directive "parsing") start 4 0 [] c with
      | .error e => .error e
      | .ok (bytes, c) => tagBytes directive verbatim start fuel (bytes.reverse ++ found) c
    | some ch =>
      if isTagChar verbatim ch then
        tagBytes directive verbatim start fuel ((Utf8.encodeChar ch).reverse ++ found) c.skip
      else .ok (found.reverse, c)
    | none => .ok (found.reverse, c)

/-- The rest of a tag behind what is known of it, whose first mark is left out. Something must be there; what is kept of
it ends before a zero byte. -/
def tagSuffix (directive verbatim : Bool) (start : Mark) (known : Text) (c : Cursor) :
    Except Fault (Bytes × Cursor) := do
  let (bytes, after) ← tagBytes directive verbatim start (c.rest.length + 1) (Utf8.encode (known.drop 1)).reverse c
  if bytes.isEmpty && known.isEmpty then
    after.fault (tagContext directive "parsing") start "did not find expected tag URI"
  else return (Bytes.untilNul bytes, after)

/-- A tag: its handle, the rest, and what follows it. -/
def tag (flow : Bool) (c : Cursor) : Except Fault (TokenKind × Cursor) := do
  let start := c.mark
  let (handle, suffix, c) ←
    if c.sees (· == '<') 1 then do
      let (suffix, c) ← tagSuffix false true start [] (c.skip 2)
      if c.sees (· == '>') then pure (([] : Text), suffix, c.skip)
      else c.fault "while scanning a tag" start "did not find the expected '>'"
    else do
      let (handle, c) ← tagHandle false start c
      if 1 < handle.length && handle.getLast? == some '!' then
        let (suffix, c) ← tagSuffix false false start [] c
        pure (handle, suffix, c)
      else
        let (suffix, c) ← tagSuffix false false start handle c
        if suffix.isEmpty then pure ([], [Tag.mark], c) else pure (['!'], suffix, c)
  if c.wordEnds || (flow && c.sees (· == ',')) then
    return (.tag (String.ofList handle) suffix, c)
  else c.fault "while scanning a tag" start "did not find expected whitespace or line break"

def versionNumber (start : Mark) (c : Cursor) : Except Fault (Nat × Cursor) :=
  let digits := c.rest.takeWhile Char.isDigit
  let context := "while scanning a %YAML directive"
  if 9 < digits.length then (c.skip 9).fault context start "found extremely long version number"
  else if digits.isEmpty then c.fault context start "did not find expected version number"
  else .ok (digits.foldl (fun n d => n * 10 + (d.toNat - 48)) 0, c.skip digits.length)

def directive (c : Cursor) : Except Fault (TokenKind × Cursor) := do
  let start := c.mark
  let c := c.skip
  let name := c.rest.takeWhile isWord
  let c := c.skip name.length
  let context := "while scanning a directive"
  if name.isEmpty then c.fault context start "could not find expected directive name"
  else if !c.wordEnds then c.fault context start "found unexpected non-alphabetical character"
  else
    let (kind, c) ←
      if name = "YAML".toList then do
        let (major, c) ← versionNumber start (c.skipWhile isSpace)
        if !c.sees (· == '.') then
          c.fault "while scanning a %YAML directive" start "did not find expected digit or '.' character"
        else
          let (minor, c) ← versionNumber start c.skip
          pure (TokenKind.version major minor, c)
      else if name = "TAG".toList then do
        let (handle, c) ← tagHandle true start (c.skipWhile isSpace)
        if !c.sees isSpace then c.fault "while scanning a %TAG directive" start "did not find expected whitespace"
        else
          let (beginning, c) ← tagSuffix true true start [] (c.skipWhile isSpace)
          if !c.wordEnds then
            c.fault "while scanning a %TAG directive" start "did not find expected whitespace or line break"
          else pure (TokenKind.tagDirective (String.ofList handle) beginning, c)
      else c.fault context start "found unknown directive name"
    let c := c.skipWhile isSpace
    let c := if c.sees (· == '#') then c.skipWhile fun ch => !isBreak ch else c
    if !c.lineEnds then c.fault context start "did not find expected comment or line break"
    else return (kind, c.skipBreak)

end HostProbe.Yaml
