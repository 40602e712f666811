import HostProbe.Settings.Reader
import HostProbe.Settings.Tree
import HostProbe.Yaml.Event

/-! Settings in a YAML text: one document that is an object, its names texts, its values what plain scalars look like
or tags say. A local tag names a setting within the value that it stands before. -/
namespace HostProbe.Yaml

/-! ## Values of scalars -/

/-- Digits with a zero in front are no number. -/
def isPaddedNumber (t : Text) : Bool :=
  match (match t with
    | '-' :: rest | '+' :: rest => rest
    | t => t) with
  | '0' :: rest => !rest.isEmpty && rest.all Char.isDigit
  | _ => false

def isSigned (t : Text) : Bool := t.head? == some '+' || t.head? == some '-'

def bases : List (Text × Nat) := [("0x".toList, 16), ("0o".toList, 8), ("0b".toList, 2)]

def wholeNumber? (largest : Nat) (t : Text) : Option Nat :=
  let body := match t with
    | '+' :: rest => rest
    | t => t
  let based := bases.findSome? fun (start, base) =>
    match Text.dropPrefix? start body with
    | some rest => if isSigned rest then some none else (Integer.unsigned base largest rest).toOption.map some
    | none => none
  match based with
  | some found => found
  | none =>
    if isSigned body || isPaddedNumber t then none else (Integer.unsigned 10 largest body).toOption

def negativeNumber? (size : Nat) (t : Text) : Option Int :=
  match t with
  | '-' :: body =>
    let based := bases.findSome? fun (start, base) =>
      match Text.dropPrefix? start body with
      | some rest => if isSigned rest then none else (Integer.unsigned base size rest).toOption
      | none => none
    let found := match based with
      | some n => some n
      | none => if isPaddedNumber t || isSigned body then none else (Integer.unsigned 10 size body).toOption
    found.map fun n => -(n : Int)
  | _ => none

def integer? (t : Text) : Option Int :=
  match wholeNumber? ((1 <<< 128) - 1) t with
  | some n => some n
  | none => negativeNumber? (1 <<< 127) t

def real? (t : Text) : Option Float :=
  let body? := match t with
    | '+' :: rest => if isSigned rest then none else some rest
    | t => some t
  match body? with
  | none => none
  | some body =>
    if [".inf", ".Inf", ".INF"].contains (String.ofList body) then some Real.infinity
    else if ["-.inf", "-.Inf", "-.INF"].contains (String.ofList t) then some (-Real.infinity)
    else if [".nan", ".NaN", ".NAN"].contains (String.ofList t) then some Real.nan
    else (Real.read? body).filter fun x => !x.isNaN && !x.isInf

def isNull (t : Text) : Bool := ["null", "Null", "NULL", "~"].contains (String.ofList t)

def boolean? (t : Text) : Option Bool :=
  if ["true", "True", "TRUE"].contains (String.ofList t) then some true
  else if ["false", "False", "FALSE"].contains (String.ofList t) then some false
  else none

def plainValue (text : String) : Json :=
  let t := text.toList
  if t.isEmpty || isNull t then .null
  else
    match boolean? t, integer? t with
    | some b, _ => .bool b
    | none, some n => .int n
    | none, none =>
      match if isPaddedNumber t then none else real? t with
      | some x => .real x
      | none => .text text

/-- The value of a scalar. Tags of the common kinds insist on them, local ones leave plain scalars what they look like,
and others make texts. -/
def scalarValue (tag? : Option Tag) (text : String) (style : Style) : Except String Json :=
  let t := text.toList
  let orElse (expected : String) (value? : Option Json) : Except String Json := match value? with
    | some value => .ok value
    | none => .error ("invalid value: string " ++ Text.quoted t ++ ", expected " ++ expected)
  match tag?.bind Tag.kind? with
  | some .boolean => orElse "a boolean" ((boolean? t).map .bool)
  | some .integer => orElse "an integer" ((integer? t).map .int)
  | some .real => orElse "a float" ((real? t).map .real)
  | some .null => orElse "null" (if isNull t then some .null else none)
  | none => .ok (if style == .plain && tag?.all Tag.isLocal then plainValue text else .text text)

/-- A value under its local tag, whose name leads to it as the path of a key does. -/
def labelled (tag? : Option Tag) (j : Json) : Json :=
  match tag?.bind Tag.localName? with
  | some name => Settings.Tree.nest j (Settings.names name)
  | none => j

/-! ## Documents -/

inductive Item
  | alias (id : Nat)
  | scalar (tag? : Option Tag) (text : String) (style : Style)
  | sequenceStart (tag? : Option Tag)
  | sequenceEnd
  | mappingStart (tag? : Option Tag)
  | mappingEnd
  | void
  deriving Repr, Inhabited

structure Document where
  items : Array (Item × Mark) := #[]
  /-- Where anchors stand, by their numbers; the last one of a number counts. -/
  targets : List (Nat × Nat) := []
  /-- What is wrong behind the last item. -/
  fault? : Option String := none
  /-- Whether more follows the document. -/
  followed : Bool := false

namespace Document

def complaint (problem : String) (mark : Mark) (path : String := ".") : String :=
  (if path == "." then "" else path ++ ": ") ++ problem ++ if mark.isTold then " at " ++ mark.text else ""

def anchored (d : Document) (anchors : List (String × Nat)) (p : Properties) : Document × List (String × Nat) :=
  match p.anchor? with
  | none => (d, anchors)
  | some name =>
    let id := anchors.length
    ({ d with targets := (id, d.items.size) :: d.targets }, (name, id) :: anchors.filter fun a => a.1 != name)

def push (d : Document) (item : Item) (mark : Mark) : Document := { d with items := d.items.push (item, mark) }

def collect (fault? : Option Fault) : Document → List (String × Nat) → List Event → Document
  | d, _, [] => { d with fault? := some ((fault?.getD default).message) }
  | d, anchors, e :: rest =>
    let node (p : Properties) (item : Item) := 
      let (d, anchors) := d.anchored anchors p
      (d.push item e.mark, anchors)
    match e.kind with
    | .documentStart => collect fault? d anchors rest
    | .streamEnd => if d.items.isEmpty then d.push .void e.mark else d
    | .documentEnd => { d with followed := rest.head?.map (·.kind) != some .streamEnd }
    | .alias name =>
      match anchors.find? fun a => a.1 == name with
      | some (_, id) => collect fault? (d.push (.alias id) e.mark) anchors rest
      | none => { d with fault? := some (complaint "unknown anchor" e.mark) }
    | .scalar p text style =>
      let (d, anchors) := node p (.scalar p.tag? text style)
      collect fault? d anchors rest
    | .sequenceStart p =>
      let (d, anchors) := node p (.sequenceStart p.tag?)
      collect fault? d anchors rest
    | .mappingStart p =>
      let (d, anchors) := node p (.mappingStart p.tag?)
      collect fault? d anchors rest
    | .sequenceEnd => collect fault? (d.push .sequenceEnd e.mark) anchors rest
    | .mappingEnd => collect fault? (d.push .mappingEnd e.mark) anchors rest

structure Progress where
  index : Nat := 0
  jumps : Nat := 0

abbrev Read := StateT Progress (Except String)

def next (d : Document) : Read (Item × Mark) := do
  let p ← get
  match d.items[p.index]? with
  | some item =>
    set { p with index := p.index + 1 }
    return item
  | none => throw (d.fault?.getD "EOF while parsing a value")

def peek (d : Document) : Read Item := do
  let p ← get
  let (item, _) ← d.next
  set p
  return item

/-- Reads at an anchor and comes back; what is read again and again has an end. -/
def atAnchor {α : Type} (d : Document) (id : Nat) (read : Read α) : Read α := do
  let p ← get
  if d.items.size * 100 < p.jumps + 1 then throw "repetition limit exceeded"
  else
    let target := ((d.targets.find? fun t => t.1 == id).map (·.2)).getD d.items.size
    set { index := target, jumps := p.jumps + 1 : Progress }
    let a ← read
    modify fun after => { after with index := p.index }
    return a

def memberPath (path name : String) : String := if path == "." then name else path ++ "." ++ name

def name (d : Document) (path : String) : Nat → Read String
  | 0 => throw "recursion limit exceeded"
  | depth + 1 => do
    let (item, mark) ← d.next
    match item with
    | .scalar _ text _ => return text
    | .alias id => d.atAnchor id (name d path depth)
    | .mappingStart _ => throw (complaint "invalid type: map, expected a string" mark path)
    | _ => throw (complaint "invalid type: sequence, expected a string" mark path)

mutual

def value (d : Document) : Nat → Nat → String → Read Json
  | 0, _, _ => throw "recursion limit exceeded"
  | fuel + 1, depth, path => do
    let (item, mark) ← d.next
    let whole (tag? : Option Tag) (read : Nat → Read Json) : Read Json :=
      match depth with
      | 0 => throw (complaint "recursion limit exceeded" mark)
      | depth + 1 => return labelled tag? (← read depth)
    match item with
    | .alias id => d.atAnchor id (value d fuel depth path)
    | .scalar tag? text style =>
      match scalarValue tag? text style with
      | .ok j => return labelled tag? j
      | .error problem => throw (complaint problem mark path)
    | .sequenceStart tag? => whole tag? fun depth => listItems d fuel depth path []
    | .mappingStart tag? => whole tag? fun depth => objectMembers d fuel depth path []
    | .sequenceEnd | .mappingEnd | .void => return .null

def listItems (d : Document) : Nat → Nat → String → List Json → Read Json
  | 0, _, _, _ => throw "recursion limit exceeded"
  | fuel + 1, depth, path, known => do
    match ← d.peek with
    | .sequenceEnd =>
      let _ ← d.next
      return .list known.reverse
    | _ =>
      let item ← value d fuel depth (path ++ s!"[{known.length}]")
      listItems d fuel depth path (item :: known)

def objectMembers (d : Document) : Nat → Nat → String → List (String × Json) → Read Json
  | 0, _, _, _ => throw "recursion limit exceeded"
  | fuel + 1, depth, path, known => do
    match ← d.peek with
    | .mappingEnd =>
      let _ ← d.next
      return .object known
    | item =>
      let name ← d.name path 128
      let inner := match item with
        | .scalar .. => memberPath path name
        | _ => memberPath path "?"
      let j ← value d fuel depth inner
      objectMembers d fuel depth path (Json.setMember name j known)

end

def describe : Json → String
  | .null => "unit value"
  | .bool b => s!"boolean `{b}`"
  | .int n => if Settings.isWide n then Settings.describe (.int n) else s!"integer `{n}`"
  | .real x => "floating point `" ++ Real.Layout.pointed.write x ++ "`"
  | j => Settings.describe j

def root (d : Document) (fuel : Nat) : Nat → Read Json
  | 0 => throw "recursion limit exceeded"
  | depth + 1 => do
    let (item, mark) ← d.next
    match item with
    | .alias id => d.atAnchor id (root d fuel depth)
    | .mappingStart _ => objectMembers d fuel 127 "." []
    | .void | .scalar _ "" .plain => return .object []
    | .scalar tag? text style =>
      match scalarValue tag? text style with
      | .ok j => throw (complaint s!"invalid type: {describe j}, expected a map" mark)
      | .error problem => throw (complaint problem mark)
    | _ => throw (complaint "invalid type: sequence, expected a map" mark)

end Document

def readObject (t : Text) : Except String Json := do
  let (events, fault?) := events t
  let d := Document.collect fault? {} [] events
  -- Each alias reads at most all items once more.
  let fuel := (d.items.size * 100 + 2) * (d.items.size + 2)
  let (j, _) ← (d.root fuel 128).run {}
  match d.fault? with
  | some problem => throw problem
  | none =>
    if d.followed then throw "deserializing from YAML containing more than one document is not supported"
    else return j

end HostProbe.Yaml
