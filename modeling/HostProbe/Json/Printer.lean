import HostProbe.Json
import HostProbe.Number.Integer
import HostProbe.Number.Shortest

/-! Documents as text, on one line or indented; the members of an object are written in the order of their names. -/
namespace HostProbe.Json

/-- A character inside quotes: controls are escaped, and what would end the text. -/
def escapeChar (c : Char) : Text :=
  match c with
  | '"' => ['\\', '"']
  | '\\' => ['\\', '\\']
  | '\n' => ['\\', 'n']
  | '\r' => ['\\', 'r']
  | '\t' => ['\\', 't']
  | '\x08' => ['\\', 'b']
  | '\x0c' => ['\\', 'f']
  | c => if c.toNat < 0x20 then "\\u00".toList ++ Integer.byteHex (UInt8.ofNat c.toNat) else [c]

def quoteText (s : String) : String := String.ofList ('"' :: s.toList.flatMap escapeChar ++ ['"'])

def sortMembers {α : Type} (members : List (String × α)) : List (String × α) :=
  members.mergeSort fun a b => !(decide (b.1 < a.1))

structure Spacing where
  /-- Before a part. -/
  line : Nat → String
  /-- Behind a name's colon. -/
  colon : String

def Spacing.compact : Spacing := ⟨fun _ => "", ""⟩

/-- Each part on a line of its own, two blanks deeper than what it is in. -/
def Spacing.pretty : Spacing := ⟨fun depth => "\n" ++ String.ofList (List.replicate (2 * depth) ' '), " "⟩

def enclose (spacing : Spacing) (depth : Nat) (left right : String) (parts : List String) : String :=
  if parts.isEmpty then left ++ right
  else
    let separator := "," ++ spacing.line (depth + 1)
    left ++ spacing.line (depth + 1) ++ String.intercalate separator parts ++ spacing.line depth ++ right

def write (spacing : Spacing) (depth : Nat) : Json → String
  | .null => "null"
  | .bool b => if b then "true" else "false"
  | .int n => toString n
  | .real x => if x.isNaN || x.isInf then "null" else Real.Layout.document.write x
  | .text s => quoteText s
  | .list items => enclose spacing depth "[" "]" (items.attach.map fun ⟨j, _⟩ => write spacing (depth + 1) j)
  | .object members =>
    let parts := members.attach.map fun ⟨m, _⟩ =>
      (m.1, quoteText m.1 ++ ":" ++ spacing.colon ++ write spacing (depth + 1) m.2)
    enclose spacing depth "\x7b" "\x7d" ((sortMembers parts).map (·.2))
termination_by j => sizeOf j
decreasing_by
  · rename_i h
    simp only [Json.list.sizeOf_spec]
    have := List.sizeOf_lt_of_mem h
    omega
  · rename_i h
    simp only [Json.object.sizeOf_spec]
    have := List.sizeOf_lt_of_mem h
    cases m
    simp_all only [Prod.mk.sizeOf_spec]
    omega

def render (j : Json) : String := j.write .compact 0

def renderPretty (j : Json) : String := j.write .pretty 0

end HostProbe.Json
