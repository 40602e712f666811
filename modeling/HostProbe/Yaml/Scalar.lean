import HostProbe.Number.Integer
import HostProbe.Yaml.Token

/-! Scalars of a YAML text: plain words, quoted text and blocks, with the folding of their lines. -/
namespace HostProbe.Yaml

/-- Text in progress; blanks and breaks wait for what follows them. -/
structure Folding where
  /-- What is final, last character first. -/
  text : Text := []
  /-- Blanks since the last word, last one first. -/
  blanks : Text := []
  firstBreak : Text := []
  /-- Breaks after the first one, last one first. -/
  breaks : Text := []
  /-- Whether a line was broken since the last word. -/
  broken : Bool := false

namespace Folding

/-- Settles what waits: one break is a space, and of more the first is dropped. -/
def settle (f : Folding) : Folding :=
  let waiting :=
    if !f.broken then f.blanks
    else if f.firstBreak == ['\n'] then (if f.breaks.isEmpty then [' '] else f.breaks)
    else f.breaks ++ f.firstBreak.reverse
  { text := waiting ++ f.text }

def push (f : Folding) (ch : Char) : Folding := { f with text := ch :: f.text }

def blank (f : Folding) (ch : Char) : Folding := if f.broken then f else { f with blanks := ch :: f.blanks }

def newline (f : Folding) (text : Text) : Folding :=
  if f.broken then { f with breaks := text.reverse ++ f.breaks }
  else { f with blanks := [], firstBreak := text, broken := true }

end Folding

/-! ## Plain words -/

def endsPlain (flow : Bool) (c : Cursor) : Bool :=
  c.wordEnds || (c.sees (· == ':') && c.wordEnds 1) || (flow && c.sees fun ch => ",[]{}".toList.contains ch)

def plainRun (flow : Bool) (start : Mark) : Nat → Cursor → Folding → Except Fault (Cursor × Folding)
  | 0, c, f => .ok (c, f)
  | fuel + 1, c, f =>
    if flow && c.sees (· == ':') && c.sees (fun ch => ",?[]{}".toList.contains ch) 1 then
      c.fault "while scanning a plain scalar" start "found unexpected ':'"
    else if endsPlain flow c then .ok (c, f)
    else plainRun flow start fuel c.skip (f.settle.push ((c.peek? 0).getD ' '))

def plainGap (indent : Nat) (start : Mark) : Nat → Cursor → Folding → Except Fault (Cursor × Folding)
  | 0, c, f => .ok (c, f)
  | fuel + 1, c, f =>
    match c.peek? 0 with
    | none => .ok (c, f)
    | some ch =>
      if isSpace ch then
        if f.broken && c.mark.column < indent && ch == '\t' then
          c.fault "while scanning a plain scalar" start "found a tab character that violates indentation"
        else plainGap indent start fuel c.skip (f.blank ch)
      else if isBreak ch then plainGap indent start fuel c.skipBreak (f.newline c.breakText)
      else .ok (c, f)

structure Plain where
  cursor : Cursor
  folding : Folding
  stop : Mark

def plainWords (flow : Bool) (indent : Nat) (start : Mark) : Nat → Plain → Except Fault Plain
  | 0, p => .ok p
  | fuel + 1, p =>
    if p.cursor.atDocumentMark || p.cursor.sees (· == '#') then .ok p
    else
      match plainRun flow start (p.cursor.rest.length + 1) p.cursor p.folding with
      | .error e => .error e
      | .ok (c, f) =>
        let p : Plain := ⟨c, f, if c.mark.index == p.cursor.mark.index then p.stop else c.mark⟩
        if !c.wordEnds || c.rest.isEmpty then .ok p
        else
          match plainGap indent start (c.rest.length + 1) c f with
          | .error e => .error e
          | .ok (c, f) =>
            let p := { p with cursor := c, folding := f }
            if !flow && c.mark.column < indent then .ok p else plainWords flow indent start fuel p

/-! ## Quoted text -/

def escapeLength? : Char → Option Nat
  | 'x' => some 2
  | 'u' => some 4
  | 'U' => some 8
  | _ => none

def escapedChar? : Char → Option Char
  | '0' => some '\x00'
  | 'a' => some '\x07'
  | 'b' => some '\x08'
  | 't' | '\t' => some '\t'
  | 'n' => some '\n'
  | 'v' => some '\x0b'
  | 'f' => some '\x0c'
  | 'r' => some '\r'
  | 'e' => some '\x1b'
  | ' ' => some ' '
  | '"' => some '"'
  | '/' => some '/'
  | '\\' => some '\\'
  | 'N' => some '\u0085'
  | '_' => some '\u00a0'
  | 'L' => some '\u2028'
  | 'P' => some '\u2029'
  | _ => none

def escape (start : Mark) (c : Cursor) (f : Folding) : Except Fault (Cursor × Folding) :=
  let context := "while parsing a quoted scalar"
  match c.peek? 1 with
  | none => c.fault context start "found unknown escape character"
  | some ch =>
    match escapedChar? ch, escapeLength? ch with
    | some decoded, _ => .ok (c.skip 2, f.push decoded)
    | none, none => c.fault context start "found unknown escape character"
    | none, some length =>
      let c := c.skip 2
      match ((c.rest.take length).mapM (Integer.digit? 16)) with
      | none => c.fault context start "did not find expected hexdecimal number"
      | some digits =>
        if digits.length < length then c.fault context start "did not find expected hexdecimal number"
        else
          let n := digits.foldl (fun n digit => n * 16 + digit) 0
          if (0xD800 ≤ n && n ≤ 0xDFFF) || 0x10FFFF < n then
            c.fault context start "found invalid Unicode character escape code"
          else .ok (c.skip length, f.push (Char.ofNat n))

def quotedRun (single : Bool) (start : Mark) : Nat → Cursor → Folding → Except Fault (Cursor × Folding)
  | 0, c, f => .ok (c, f)
  | fuel + 1, c, f =>
    if c.wordEnds then .ok (c, f)
    else if single && c.sees (· == '\'') && c.sees (· == '\'') 1 then
      quotedRun single start fuel (c.skip 2) (f.push '\'')
    else if c.sees (· == if single then '\'' else '"') then .ok (c, f)
    else if !single && c.sees (· == '\\') then
      if c.sees isBreak 1 then .ok (c.skip.skipBreak, { f with broken := true })
      else
        match escape start c f with
        | .error e => .error e
        | .ok (c, f) => quotedRun single start fuel c f
    else quotedRun single start fuel c.skip (f.push ((c.peek? 0).getD ' '))

def quotedGap : Nat → Cursor → Folding → Cursor × Folding
  | 0, c, f => (c, f)
  | fuel + 1, c, f =>
    match c.peek? 0 with
    | none => (c, f)
    | some ch =>
      if isSpace ch then quotedGap fuel c.skip (f.blank ch)
      else if isBreak ch then quotedGap fuel c.skipBreak (f.newline c.breakText)
      else (c, f)

def quotedLines (single : Bool) (start : Mark) : Nat → Cursor → Folding → Except Fault (Cursor × Folding)
  | 0, c, f => .ok (c, f)
  | fuel + 1, c, f =>
    let context := "while scanning a quoted scalar"
    if c.atDocumentMark then c.fault context start "found unexpected document indicator"
    else if c.rest.isEmpty then c.fault context start "found unexpected end of stream"
    else
      match quotedRun single start (c.rest.length + 1) c f with
      | .error e => .error e
      | .ok (c, f) =>
        if c.sees (· == if single then '\'' else '"') then .ok (c.skip, f)
        else
          let (c, f) := quotedGap (c.rest.length + 1) c f
          quotedLines single start fuel c f.settle

/-! ## Blocks -/

inductive Chomping
  | strip
  | clip
  | keep
  deriving Repr, DecidableEq, Inhabited

structure Margin where
  cursor : Cursor
  breaks : Text := []
  /-- The deepest blank line. -/
  deepest : Nat := 0
  stop : Mark

/-- Blank lines of a block; `indent` is zero while the depth is not known. -/
def blankLines (indent : Nat) (start : Mark) : Nat → Margin → Except Fault Margin
  | 0, m => .ok m
  | fuel + 1, m =>
    let spaces := (m.cursor.rest.takeWhile (· == ' ')).length
    let c := m.cursor.skip (if indent == 0 then spaces else min spaces (indent - m.cursor.mark.column))
    let m := { m with cursor := c, deepest := max m.deepest c.mark.column }
    if (indent == 0 || c.mark.column < indent) && c.sees (· == '\t') then
      c.fault "while scanning a block scalar" start "found a tab character where an indentation space is expected"
    else if c.sees isBreak then
      let next := c.skipBreak
      blankLines indent start fuel
        { m with cursor := next, breaks := c.breakText.reverse ++ m.breaks, stop := next.mark }
    else .ok m

structure Block where
  margin : Margin
  text : Text := []
  firstBreak : Text := []
  /-- Whether the last line began with a blank. -/
  blank : Bool := false

def blockLines (literal : Bool) (indent : Nat) (start : Mark) : Nat → Block → Except Fault Block
  | 0, b => .ok b
  | fuel + 1, b =>
    let c := b.margin.cursor
    if c.mark.column != indent || c.rest.isEmpty then .ok b
    else
      let blank := c.sees isSpace
      let folded := !literal && b.firstBreak == ['\n'] && !b.blank && !blank
      let joined :=
        if folded then (if b.margin.breaks.isEmpty then [' '] else b.margin.breaks)
        else b.margin.breaks ++ b.firstBreak.reverse
      let line := c.rest.takeWhile fun ch => !isBreak ch
      let atBreak := c.skip line.length
      let next := atBreak.skipBreak
      match blankLines indent start (next.rest.length + 1)
          { cursor := next, stop := next.mark, deepest := b.margin.deepest } with
      | .error e => .error e
      | .ok margin =>
        blockLines literal indent start fuel
          { margin, text := line.reverse ++ joined ++ b.text, firstBreak := atBreak.breakText, blank }

/-- The signs behind a block's indicator: how its end is kept, and how much deeper its lines stand. -/
def blockHeader (start : Mark) (c : Cursor) : Except Fault (Chomping × Nat × Cursor) :=
  let chomping? (c : Cursor) : Option Chomping :=
    if c.sees (· == '+') then some .keep else if c.sees (· == '-') then some .strip else none
  let digit? (c : Cursor) : Option Nat := ((c.peek? 0).filter Char.isDigit).map fun ch => ch.toNat - 48
  let zero (c : Cursor) : Except Fault (Chomping × Nat × Cursor) :=
    c.fault "while scanning a block scalar" start "found an indentation indicator equal to 0"
  match chomping? c, digit? c with
  | some chomping, _ =>
    let c := c.skip
    match digit? c with
    | some 0 => zero c
    | some n => .ok (chomping, n, c.skip)
    | none => .ok (chomping, 0, c)
  | none, some 0 => zero c
  | none, some n =>
    let c := c.skip
    match chomping? c with
    | some chomping => .ok (chomping, n, c.skip)
    | none => .ok (.clip, n, c)
  | none, none => .ok (.clip, 0, c)

def blockScalar (literal : Bool) (parent : Int) (c : Cursor) : Except Fault (Text × Mark × Cursor) := do
  let start := c.mark
  let (chomping, deeper, c) ← blockHeader start c.skip
  let c := c.skipWhile isSpace
  let c := if c.sees (· == '#') then c.skipWhile fun ch => !isBreak ch else c
  if !c.lineEnds then
    c.fault "while scanning a block scalar" start "did not find expected comment or line break"
  else
    let c := c.skipBreak
    let told := if deeper == 0 then 0 else parent.toNat + deeper
    let margin ← blankLines told start (c.rest.length + 1) { cursor := c, stop := c.mark }
    let indent := if told == 0 then max (max margin.deepest (parent + 1).toNat) 1 else told
    let block ← blockLines literal indent start (c.rest.length + 1) { margin }
    let tail := match chomping with
      | .strip => []
      | .clip => block.firstBreak.reverse
      | .keep => block.margin.breaks ++ block.firstBreak.reverse
    return ((tail ++ block.text).reverse, block.margin.stop, block.margin.cursor)

end HostProbe.Yaml
