import HostProbe.Json
import HostProbe.Number.Shortest

/-! Events worth a line in the log, and their lines, `time | program | level | (file:line) | name:value,... | message`,
written piece by piece to a place that may stop taking text. -/
namespace HostProbe.Log

/-! ### Events -/

inductive Level
  | trace
  | debug
  | info
  | warn
  | error
  deriving Repr, DecidableEq, Inhabited

def Level.title : Level → String
  | trace => "TRACE"
  | debug => "DEBUG"
  | info => "INFO"
  | warn => "WARN"
  | error => "ERROR"

/-- Values of fields. What has no type of its own gives its text in parts, of which it gives no more after one that is
not taken, and may fail behind them. -/
inductive Value
  | int (n : Int)
  | bool (b : Bool)
  | real (x : Float)
  | text (s : String)
  | custom (parts : List String) (fails : Bool)
  deriving Inhabited

namespace Value

def shown (s : String) : Value := custom [s] false

def parts : Value → List String
  | int n => [toString n]
  | bool b => [toString b]
  | real x => [Real.Layout.diagnostic.write x]
  | text s => [s]
  | custom parts _ => parts

def fails : Value → Bool
  | custom _ fails => fails
  | _ => false

def plain (v : Value) : String := String.join v.parts

def toJson : Value → Json
  | int n => .int n
  | bool b => .bool b
  | real x => .real x
  | text s => .text s
  | custom parts _ => .text (String.join parts)

end Value

structure Field where
  name : String
  value : Value
  deriving Inhabited

/-- The field of this name is the event's message. -/
def Field.isMessage (f : Field) : Bool := f.name == "message"

structure Event where
  level : Level
  fields : List Field
  deriving Inhabited

def Event.toJson (e : Event) : Json :=
  .object (("level", .text e.level.title) :: e.fields.map fun f => (f.name, f.value.toJson))

/-! ### Lines -/

/-- A place for text. Given the pieces that it already holds, it takes the next one whole (`none`), or fails after so
many of its characters. -/
abbrev Sink := List String → String → Option Nat

def Sink.boundless : Sink := fun _ _ => none

/-- What a sink holds so far, and whether it has refused a piece or a part of one. -/
structure Written where
  pieces : List String := []
  refused : Bool := false
  deriving Repr, DecidableEq, Inhabited

/-- What is to be written next: a piece of text, or what has failed before there was any. -/
inductive Step
  | text (piece : String)
  | failure
  deriving Repr, DecidableEq, Inhabited

/-- Takes one step; after a failure nothing is written. -/
def Written.push (sink : Sink) (w : Written) (step : Step) : Written :=
  if w.refused then w
  else match step with
    | .failure => { w with refused := true }
    | .text piece =>
      match sink w.pieces piece with
      | none => { w with pieces := w.pieces ++ [piece] }
      | some count => { pieces := w.pieces ++ [String.ofList (piece.toList.take count)], refused := true }

def Written.append (sink : Sink) (w : Written) (steps : List Step) : Written := steps.foldl (·.push sink) w

def Written.text (w : Written) : String := String.join w.pieces

namespace Value

def failure (v : Value) : List Step := if v.fails then [.failure] else []

/-- Whether the value stands between quotes, which its text may hold itself. -/
def isQuoted : Value → Bool
  | int _ | bool _ => false
  | _ => true

def steps (v : Value) : List Step :=
  let inner := v.parts.map Step.text ++ v.failure
  if v.isQuoted then .text "\"" :: inner ++ [.text "\""] else inner

end Value

def Field.steps (separator : String) (f : Field) : List Step :=
  [separator, f.name, ":"].map Step.text ++ f.value.steps

/-- A line in progress: the message waits until all other fields are written. -/
structure Line where
  written : Written
  /-- How many fields are written. -/
  fields : Nat := 0
  message : String := ""
  deriving Repr, DecidableEq, Inhabited

namespace Line

/-- Takes the next recorded field. Of the message only a failure is told at once. -/
def record (sink : Sink) (l : Line) (f : Field) : Line :=
  if l.written.refused then l
  else if f.isMessage then
    { l with message := l.message ++ f.value.plain, written := l.written.append sink f.value.failure }
  else
    let written := l.written.append sink (f.steps (if l.fields = 0 then " | " else ","))
    { l with written, fields := if written.refused then l.fields else l.fields + 1 }

def finish (sink : Sink) (l : Line) : Written :=
  if l.message.isEmpty then l.written else l.written.append sink ([" | ", l.message].map Step.text)

end Line

/-- What stands behind the source location: the fields and the message. -/
def Event.writeFields (sink : Sink) (e : Event) (w : Written) : Written :=
  (e.fields.foldl (Line.record sink) { written := w }).finish sink

def Event.write (sink : Sink) (time source : String) (e : Event) : Written :=
  let start := [time, " | SYSPROBE | ", e.level.title, " | ", "(", source, ")"]
  (e.writeFields sink (({} : Written).append sink (start.map Step.text))).push sink (.text "\n")

def Event.line (time source : String) (e : Event) : String := (e.write .boundless time source).text

end HostProbe.Log
