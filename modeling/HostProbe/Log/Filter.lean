import HostProbe.Log.Line
import HostProbe.Number.Real

/-! Which events are worth a line: directives that set a level for everything, or for targets, spans and fields. -/
namespace HostProbe.Log

def Level.name : Level → String
  | trace => "trace"
  | debug => "debug"
  | info => "info"
  | warn => "warn"
  | error => "error"

/-- How much is let through: nothing, or events of a level and above. -/
abbrev Limit := Option Level

def Limit.name (limit : Limit) : String := (limit.map Level.name).getD "off"

def Limit.all : List Limit := [none, some .error, some .warn, some .info, some .debug, some .trace]

def Limit.read? (t : Text) : Option Limit :=
  match Integer.word? t with
  | some n => Limit.all[n]?
  | none => Limit.all.find? fun limit => limit.name.toList == Text.lower t

structure FieldMatch where
  name : String
  value? : Option String := none
  deriving Repr, DecidableEq, Inhabited

namespace FieldMatch

/-- A value as it is written again: numbers in their own form. -/
def normalize (t : Text) : String :=
  match Integer.word? t, Integer.int64? t, Real.read? t with
  | some n, _, _ => toString n
  | none, some n, _ => toString n
  | none, none, some x => Real.Layout.plain.write x
  | none, none, none => String.ofList t

def ofText (t : Text) : FieldMatch :=
  match t.splitOn '=' with
  | name :: value :: _ => ⟨String.ofList name, some (normalize value)⟩
  | _ => ⟨String.ofList t, none⟩

def text (f : FieldMatch) : String := f.name ++ (f.value?.map ("=" ++ ·)).getD ""

end FieldMatch

structure Directive where
  target? : Option String := none
  span? : Option String := none
  fields : List FieldMatch := []
  limit : Limit := some .trace
  deriving Repr, DecidableEq, Inhabited

namespace Directive

def withLimit? (d : Directive) (t : Text) : Option Directive :=
  if t.isEmpty then some d else (Limit.read? t).map fun limit => { d with limit }

def afterSpan? (d : Directive) : Text → Option Directive
  | [] => some d
  | '=' :: limit => d.withLimit? limit
  | _ => none

/-- A span behind its bracket: a name, and a field in braces. -/
def withSpan? (d : Directive) (t : Text) : Option Directive :=
  let isEnd (c : Char) : Bool := c == ']' || c == '\x7b'
  let name := String.ofList (t.takeWhile fun c => !isEnd c)
  match t.dropWhile fun c => !isEnd c with
  | ']' :: rest => { d with span? := some name }.afterSpan? rest
  | _ :: rest =>
    let field := rest.takeWhile (· != '\x7d')
    match rest.dropWhile (· != '\x7d') with
    | '\x7d' :: ']' :: rest =>
      if field.isEmpty then none
      else
        { d with span? := if name.isEmpty then none else some name, fields := [.ofText field] }.afterSpan? rest
    | _ => none
  | [] => none

/-- Reads a directive: a limit alone, or a target or a span with a limit. -/
def read? (t : Text) : Option Directive :=
  match Text.trim t with
  | [] => none
  | '[' :: rest => ({} : Directive).withSpan? rest
  | t@(first :: _) =>
    if !(first.isAlphanum || 0x80 ≤ first.toNat || first == '-' || first == ':' || first == '_') then none
    else
      let head := t.takeWhile fun c => c != '=' && c != '['
      let target : Directive := { target? := some (String.ofList head) }
      match t.drop head.length with
      | [] => some ((Limit.read? head).elim target fun limit => { limit })
      | '=' :: limit => target.withLimit? limit
      | _ :: span => target.withSpan? span

def text (d : Directive) : String :=
  let fields := if d.fields.isEmpty then "" else "\x7b" ++ ",".intercalate (d.fields.map FieldMatch.text) ++ "\x7d"
  let span := if d.span?.isSome || !d.fields.isEmpty then "[" ++ d.span?.getD "" ++ fields ++ "]" else ""
  let scope := d.target?.getD "" ++ span
  (if d.target?.isSome || !span.isEmpty then scope ++ "=" else "") ++ Limit.name d.limit

def rank (d : Directive) : List Nat :=
  [(d.target?.map fun t => t.utf8ByteSize + 1).getD 0, if d.span?.isSome then 1 else 0, d.fields.length]

def label (d : Directive) : List String :=
  [d.target?.getD "", d.span?.getD ""] ++ d.fields.map FieldMatch.text

def precedes (a b : Directive) : Bool :=
  decide (b.rank < a.rank) || (a.rank == b.rank && decide (b.label < a.label))

/-- Puts a directive in its place among others, or in that of one with the same scope. -/
def insert (d : Directive) : List Directive → List Directive
  | [] => [d]
  | e :: rest =>
    if d.precedes e then d :: e :: rest
    else if e.precedes d then e :: insert d rest
    else d :: rest

/-- Whether the directive speaks of spans or fields, so that an event alone does not settle it. -/
def isDynamic (d : Directive) : Bool := d.span?.isSome || !d.fields.isEmpty

def static? (d : Directive) : Option Directive :=
  if d.span?.isSome || d.fields.any (·.value?.isSome) then none else some d

end Directive

/-- The directives of a filter, in the order in which they are tried. -/
structure Filter where
  statics : List Directive := []
  dynamics : List Directive := []
  deriving Repr, DecidableEq, Inhabited

namespace Filter

/-- A filter of directives; without any, only errors pass. -/
def ofDirectives (directives : List Directive) : Filter :=
  let (dynamic, static) := directives.partition Directive.isDynamic
  let put (ds : List Directive) : List Directive := ds.foldl (fun found d => d.insert found) []
  let statics := put (static ++ dynamic.filterMap Directive.static?)
  let dynamics := put dynamic
  if statics.isEmpty && dynamics.isEmpty then { statics := [{ limit := some .error }] } else { statics, dynamics }

def upTo (limit : Limit) : Filter := .ofDirectives [{ limit }]

def read? (t : Text) : Option Filter :=
  (((t.splitOn ',').filter fun d => !d.isEmpty).mapM Directive.read?).map ofDirectives

def text (f : Filter) : String := ",".intercalate ((f.statics ++ f.dynamics).map Directive.text)

end Filter
end HostProbe.Log
