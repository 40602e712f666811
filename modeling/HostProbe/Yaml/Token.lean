import HostProbe.Text.Blank
import HostProbe.Text.Utf8

/-! Pieces of a YAML text: indicators, names and scalars, with the places where they stand. -/
namespace HostProbe.Yaml

structure Mark where
  index : Nat := 0
  line : Nat := 0
  column : Nat := 0
  deriving Repr, DecidableEq, Inhabited

def Mark.isTold (m : Mark) : Bool := m.line != 0 || m.column != 0

def Mark.text (m : Mark) : String := s!"line {m.line + 1} column {m.column + 1}"

structure Fault where
  problem : String
  mark : Mark := {}
  /-- Offset in bytes, for what is wrong before the text is cut into lines. -/
  offset : Nat := 0
  context? : Option (String × Mark) := none
  deriving Repr, DecidableEq, Inhabited

def Fault.message (f : Fault) : String :=
  let place :=
    if f.mark.isTold then " at " ++ f.mark.text
    else if f.offset != 0 then s!" at position {f.offset}"
    else ""
  let context := match f.context? with
    | none => ""
    | some (context, start) =>
      let far := start.isTold && (start.line != f.mark.line || start.column != f.mark.column)
      ", " ++ context ++ if far then " at " ++ start.text else ""
  f.problem ++ place ++ context

inductive Style
  | plain
  | quoted
  | block
  deriving Repr, DecidableEq, Inhabited

inductive TokenKind
  | version (major minor : Nat)
  | tagDirective (handle : String) (beginning : Bytes)
  | documentStart
  | documentEnd
  | streamEnd
  | blockSequenceStart
  | blockMappingStart
  | blockEnd
  | flowSequenceStart
  | flowSequenceEnd
  | flowMappingStart
  | flowMappingEnd
  | blockEntry
  | flowEntry
  | key
  | value
  | alias (name : String)
  | anchor (name : String)
  | tag (handle : String) (suffix : Bytes)
  | scalar (text : String) (style : Style)
  deriving Repr, DecidableEq, Inhabited

structure Token where
  kind : TokenKind
  start : Mark
  stop : Mark
  deriving Repr, DecidableEq, Inhabited

def isSpace (c : Char) : Bool := c == ' ' || c == '\t'

def isBreak (c : Char) : Bool := c == '\n' || c == '\r' || c.toNat == 0x85 || c.toNat == 0x2028 || c.toNat == 0x2029

def isWord (c : Char) : Bool := c.isAlphanum || c == '_' || c == '-'

def isAllowed (c : Char) : Bool :=
  let n := c.toNat
  n == 0x09 || n == 0x0A || n == 0x0D || (0x20 ≤ n && n ≤ 0x7E) || n == 0x85 || (0xA0 ≤ n && n ≤ 0xD7FF)
    || (0xE000 ≤ n && n ≤ 0xFFFD) || 0x10000 ≤ n

structure Cursor where
  rest : Text
  mark : Mark := {}
  deriving Repr, Inhabited

namespace Cursor

def peek? (c : Cursor) (ahead : Nat := 0) : Option Char := c.rest[ahead]?

def sees (c : Cursor) (p : Char → Bool) (ahead : Nat := 0) : Bool := (c.peek? ahead).any p

def wordEnds (c : Cursor) (ahead : Nat := 0) : Bool := (c.peek? ahead).all fun ch => isSpace ch || isBreak ch

def lineEnds (c : Cursor) : Bool := (c.peek? 0).all isBreak

def skip (c : Cursor) (count : Nat := 1) : Cursor :=
  let count := min count c.rest.length
  { rest := c.rest.drop count
    mark := { c.mark with index := c.mark.index + count, column := c.mark.column + count } }

def skipWhile (c : Cursor) (p : Char → Bool) : Cursor := c.skip (c.rest.takeWhile p).length

def skipBreak (c : Cursor) : Cursor :=
  match c.rest with
  | '\r' :: '\n' :: rest => ⟨rest, ⟨c.mark.index + 2, c.mark.line + 1, 0⟩⟩
  | _ :: rest => ⟨rest, ⟨c.mark.index + 1, c.mark.line + 1, 0⟩⟩
  | [] => c

/-- What a line break stands for: most are the same, and the separators of Unicode stay themselves. -/
def breakText (c : Cursor) : Text :=
  match c.rest with
  | ch :: _ => if ch.toNat == 0x2028 || ch.toNat == 0x2029 then [ch] else ['\n']
  | [] => []

def atDocumentMark (c : Cursor) : Bool :=
  c.mark.column == 0 && ("---".toList.isPrefixOf c.rest || "...".toList.isPrefixOf c.rest) && c.wordEnds 3

def fault {α : Type} (c : Cursor) (context : String) (start : Mark) (problem : String) : Except Fault α :=
  .error { problem, mark := c.mark, context? := some (context, start) }

end Cursor
end HostProbe.Yaml
