import HostProbe.Yaml.Name
import HostProbe.Yaml.Scalar

/-! Tokens of a YAML text. Indentation opens and closes block collections, and what stands before a colon becomes a key
in hindsight: wherever one may begin, its place among the tokens is kept until it is too late. -/
namespace HostProbe.Yaml

structure KeyPlace where
  possible : Bool := false
  /-- Whether nothing but a key can stand there. -/
  required : Bool := false
  token : Nat := 0
  mark : Mark := {}
  deriving Repr, Inhabited

structure Scanner where
  cursor : Cursor
  tokens : Array Token := #[]
  /-- Where a key may have begun, for each open flow collection and around them, innermost first. -/
  keys : List KeyPlace := [{}]
  keyAllowed : Bool := true
  indent : Int := -1
  /-- Depths of the block collections around the innermost. -/
  indents : List Int := []
  /-- How many flow collections are open. -/
  flow : Nat := 0
  finished : Bool := false

namespace Scanner

def mark (s : Scanner) : Mark := s.cursor.mark

def fault {α : Type} (s : Scanner) (problem : String) : Except Fault α := .error { problem, mark := s.mark }

def push (s : Scanner) (kind : TokenKind) (start : Mark) : Scanner :=
  { s with tokens := s.tokens.push ⟨kind, start, s.mark⟩ }

def indicator (s : Scanner) (kind : TokenKind) (width : Nat := 1) : Scanner :=
  { s with cursor := s.cursor.skip width }.push kind s.mark

/-- Passes blanks, comments and breaks; where a key may begin a line, tabs are no blanks. -/
def skipBlanks : Nat → Scanner → Scanner
  | 0, s => s
  | fuel + 1, s =>
    let c := s.cursor.skipWhile fun ch => ch == ' ' || (ch == '\t' && (0 < s.flow || !s.keyAllowed))
    let c := if c.sees (· == '#') then c.skipWhile fun ch => !isBreak ch else c
    if c.sees isBreak then
      skipBlanks fuel { s with cursor := c.skipBreak, keyAllowed := s.keyAllowed || s.flow == 0 }
    else { s with cursor := c }

def dropStaleKeys (s : Scanner) : Except Fault Scanner := do
  let isStale (k : KeyPlace) : Bool := k.possible && (k.mark.line < s.mark.line || k.mark.index + 1024 < s.mark.index)
  match s.keys.reverse.find? fun k => isStale k && k.required with
  | some k => s.cursor.fault "while scanning a simple key" k.mark "could not find expected ':'"
  | none => return { s with keys := s.keys.map fun k => if isStale k then { k with possible := false } else k }

def dropKey (s : Scanner) : Except Fault Scanner :=
  match s.keys with
  | k :: rest =>
    if k.possible && k.required then
      s.cursor.fault "while scanning a simple key" k.mark "could not find expected ':'"
    else .ok { s with keys := { k with possible := false } :: rest }
  | [] => .ok s

def saveKey (s : Scanner) : Except Fault Scanner := do
  if !s.keyAllowed then return s
  else
    let place : KeyPlace :=
      { possible := true
        required := s.flow == 0 && s.indent == s.mark.column
        token := s.tokens.size
        mark := s.mark }
    let s ← s.dropKey
    return { s with keys := place :: s.keys.drop 1 }

def openBlock (s : Scanner) (column : Nat) (token : Nat) (kind : TokenKind) (mark : Mark) : Scanner :=
  if s.flow == 0 && s.indent < column then
    { s with
      indents := s.indent :: s.indents
      indent := column
      tokens := s.tokens.insertIdxIfInBounds token ⟨kind, mark, mark⟩ }
  else s

def endBlocks (column : Int) : List Int → Scanner → Scanner
  | [], s => s
  | outer :: rest, s =>
    if column < s.indent then endBlocks column rest ({ s with indent := outer, indents := rest }.push .blockEnd s.mark)
    else s

/-- Ends block collections deeper than the column; flow collections have no depth. -/
def closeBlocks (s : Scanner) (column : Int) : Scanner := if 0 < s.flow then s else endBlocks column s.indents s

def finish (s : Scanner) : Except Fault Scanner := do
  let mark : Mark := if s.mark.column = 0 then s.mark else { s.mark with line := s.mark.line + 1, column := 0 }
  let s := { s with cursor := { s.cursor with mark := mark } }
  let s ← (s.closeBlocks (-1)).dropKey
  return { s.push .streamEnd mark with keyAllowed := false, finished := true }

def leaveBlocks (s : Scanner) : Except Fault Scanner := do
  let s ← (s.closeBlocks (-1)).dropKey
  return { s with keyAllowed := false }

def openFlow (s : Scanner) (kind : TokenKind) : Except Fault Scanner := do
  let s ← s.saveKey
  return { s with keys := {} :: s.keys, flow := s.flow + 1, keyAllowed := true }.indicator kind

def closeFlow (s : Scanner) (kind : TokenKind) : Except Fault Scanner := do
  let s ← s.dropKey
  let s := if 0 < s.flow then { s with keys := s.keys.drop 1, flow := s.flow - 1 } else s
  return { s with keyAllowed := false }.indicator kind

def flowEntry (s : Scanner) : Except Fault Scanner := do
  let s ← s.dropKey
  return { s with keyAllowed := true }.indicator .flowEntry

def blockEntry (s : Scanner) : Except Fault Scanner := do
  if s.flow == 0 && !s.keyAllowed then s.fault "block sequence entries are not allowed in this context"
  else
    let s ← (s.openBlock s.mark.column s.tokens.size .blockSequenceStart s.mark).dropKey
    return { s with keyAllowed := true }.indicator .blockEntry

def keyMark (s : Scanner) : Except Fault Scanner := do
  if s.flow == 0 && !s.keyAllowed then s.fault "mapping keys are not allowed in this context"
  else
    let s ← (s.openBlock s.mark.column s.tokens.size .blockMappingStart s.mark).dropKey
    return { s with keyAllowed := s.flow == 0 }.indicator .key

def valueMark (s : Scanner) : Except Fault Scanner := do
  match s.keys with
  | k :: rest =>
    if k.possible then
      let s := { s with tokens := s.tokens.insertIdxIfInBounds k.token ⟨.key, k.mark, k.mark⟩ }
      let s := s.openBlock k.mark.column k.token .blockMappingStart k.mark
      return { s with keys := { k with possible := false } :: rest, keyAllowed := false }.indicator .value
    else if s.flow == 0 && !s.keyAllowed then s.fault "mapping values are not allowed in this context"
    else
      let s := s.openBlock s.mark.column s.tokens.size .blockMappingStart s.mark
      return { s with keyAllowed := s.flow == 0 }.indicator .value
  | [] => return s.indicator .value

def keyToken (s : Scanner) (read : Cursor → Except Fault (TokenKind × Cursor)) : Except Fault Scanner := do
  let start := s.mark
  let s ← s.saveKey
  let (kind, cursor) ← read s.cursor
  return { s with keyAllowed := false, cursor }.push kind start

def block (s : Scanner) (literal : Bool) : Except Fault Scanner := do
  let start := s.mark
  let s ← s.dropKey
  let (text, stop, cursor) ← blockScalar literal s.indent s.cursor
  return { s with
    cursor
    keyAllowed := true
    tokens := s.tokens.push ⟨.scalar (String.ofList text) .block, start, stop⟩ }

def quoted (s : Scanner) (single : Bool) : Except Fault Scanner :=
  s.keyToken fun c => do
    let (cursor, folding) ← quotedLines single c.mark (c.rest.length + 1) c.skip {}
    return (.scalar (String.ofList folding.text.reverse) .quoted, cursor)

def plain (s : Scanner) : Except Fault Scanner := do
  let start := s.mark
  let s ← s.saveKey
  let p ← plainWords (0 < s.flow) (s.indent + 1).toNat start (s.cursor.rest.length + 1) ⟨s.cursor, {}, start⟩
  return { s with
    cursor := p.cursor
    keyAllowed := p.folding.broken
    tokens := s.tokens.push ⟨.scalar (String.ofList p.folding.text.reverse) .plain, start, p.stop⟩ }

def isIndicator (c : Char) : Bool := "-?:,[]\x7b\x7d#&*!|>'\"%@`".toList.contains c

def take (s : Scanner) : Except Fault Scanner :=
  let c := s.cursor
  let inBlock := s.flow == 0
  match c.peek? 0 with
  | none => s.finish
  | some ch =>
    if ch == '%' && c.mark.column == 0 then do
      let start := s.mark
      let s ← s.leaveBlocks
      let (kind, cursor) ← directive s.cursor
      return { s with cursor }.push kind start
    else if c.atDocumentMark then do
      let s ← s.leaveBlocks
      return s.indicator (if ch == '-' then .documentStart else .documentEnd) 3
    else if ch == '[' then s.openFlow .flowSequenceStart
    else if ch == '\x7b' then s.openFlow .flowMappingStart
    else if ch == ']' then s.closeFlow .flowSequenceEnd
    else if ch == '\x7d' then s.closeFlow .flowMappingEnd
    else if ch == ',' then s.flowEntry
    else if ch == '-' && c.wordEnds 1 then s.blockEntry
    else if ch == '?' && (!inBlock || c.wordEnds 1) then s.keyMark
    else if ch == ':' && (!inBlock || c.wordEnds 1) then s.valueMark
    else if ch == '*' || ch == '&' then
      s.keyToken fun c => do
        let (name, c) ← anchorName (ch == '*') c
        return (if ch == '*' then .alias name else .anchor name, c)
    else if ch == '!' then s.keyToken (tag (0 < s.flow))
    else if ch == '|' && inBlock then s.block true
    else if ch == '>' && inBlock then s.block false
    else if ch == '\'' then s.quoted true
    else if ch == '"' then s.quoted false
    else if !(isSpace ch || isBreak ch || isIndicator ch) || (ch == '-' && !c.sees isSpace 1)
        || (inBlock && (ch == '?' || ch == ':') && !c.wordEnds 1) then s.plain
    else c.fault "while scanning for the next token" c.mark "found character that cannot start any token"

def next (s : Scanner) : Except Fault Scanner := do
  let s ← (s.skipBlanks (s.cursor.rest.length + 1)).dropStaleKeys
  (s.closeBlocks s.mark.column).take

/-- Tokens that no key can come before any more. -/
def settled (s : Scanner) : List Token :=
  let places := (s.keys.filter (·.possible)).map (·.token)
  s.tokens.toList.take (places.foldl min s.tokens.size)

def run : Nat → Scanner → List Token × Option Fault
  | 0, s => (s.settled, none)
  | fuel + 1, s =>
    if s.finished then (s.tokens.toList, none)
    else
      match s.dropStaleKeys with
      | .error e => (s.settled, some e)
      | .ok s =>
        match s.next with
        | .error e => (s.settled, some e)
        | .ok s => run fuel s

end Scanner

def firstForbidden? : Nat → Text → Option Nat
  | _, [] => none
  | offset, c :: rest => if isAllowed c then firstForbidden? (offset + c.utf8Size) rest else some offset

def tokens (t : Text) : List Token × Option Fault :=
  match firstForbidden? 0 t with
  | some offset => ([], some { problem := "control characters are not allowed", offset })
  | none =>
    -- A mark of the byte order is no character of the text.
    let body := if t.head?.any (·.toNat == 0xFEFF) then t.drop 1 else t
    Scanner.run (body.length + 2) { cursor := { rest := body } }

end HostProbe.Yaml
