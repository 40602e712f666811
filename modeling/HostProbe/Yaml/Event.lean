import HostProbe.Yaml.Scanner

/-! Events of a YAML text: scalars, aliases, and the beginnings and ends of collections and documents, in the order in
which they are met. -/
namespace HostProbe.Yaml

structure Properties where
  anchor? : Option String := none
  tag? : Option Tag := none
  deriving Repr, DecidableEq, Inhabited

inductive EventKind
  | documentStart
  | documentEnd
  | streamEnd
  | alias (name : String)
  | scalar (properties : Properties) (text : String) (style : Style)
  | sequenceStart (properties : Properties)
  | sequenceEnd
  | mappingStart (properties : Properties)
  | mappingEnd
  deriving Repr, DecidableEq, Inhabited

structure Event where
  kind : EventKind
  mark : Mark
  deriving Repr, DecidableEq, Inhabited

inductive Place
  | implicitDocument
  | document
  | documentContent
  | documentEnd
  | blockNode
  | blockSequenceEntry (first : Bool)
  | indentlessEntry
  | blockMappingKey (first : Bool)
  | blockMappingValue
  | flowSequenceEntry (first : Bool)
  | flowPairKey
  | flowPairValue
  | flowPairEnd
  | flowMappingKey (first : Bool)
  | flowMappingValue
  | flowMappingEmptyValue
  | done
  deriving Repr, DecidableEq, Inhabited

structure Reading where
  tokens : List Token
  /-- What is wrong behind the last token. -/
  fault? : Option Fault
  place : Place := .implicitDocument
  /-- Where reading goes on when a node is complete, innermost first. -/
  places : List Place := []
  /-- Where the open collections began, innermost first. -/
  starts : List Mark := []
  /-- Tag handles and what they stand for. -/
  handles : List (String × Bytes) := []

namespace Reading

def peek (r : Reading) : Except Fault Token :=
  match r.tokens with
  | t :: _ => .ok t
  | [] => .error (r.fault?.getD default)

def skip (r : Reading) : Reading := { r with tokens := r.tokens.drop 1 }

def pop (r : Reading) : Reading :=
  match r.places with
  | p :: rest => { r with place := p, places := rest }
  | [] => { r with place := .done }

def goTo (r : Reading) (place : Place) : Reading := { r with place }

def toward (r : Reading) (next : Place) : Reading := { r with places := next :: r.places }

def leave (r : Reading) : Reading := { r.pop with starts := r.starts.drop 1 }

def enter (r : Reading) (mark : Mark) : Reading := { r with starts := mark :: r.starts }.skip

abbrev Step := Except Fault (Event × Reading)

def emit (r : Reading) (kind : EventKind) (mark : Mark) : Step := .ok (⟨kind, mark⟩, r)

def empty (r : Reading) (mark : Mark) : Step := r.emit (.scalar {} "" .plain) mark

def fault {α : Type} (context : String) (start : Mark) (problem : String) (mark : Mark) : Except Fault α :=
  .error { problem, mark, context? := some (context, start) }

def defaultHandles : List (String × Bytes) := [("!", [Tag.mark]), ("!!", (Tag.ofString Tag.common).bytes)]

def directives : List Token → Bool → List (String × Bytes) → Except Fault (List Token × List (String × Bytes))
  | t :: rest, versioned, handles =>
    match t.kind with
    | .version major minor =>
      if versioned then .error { problem := "found duplicate %YAML directive", mark := t.start }
      else if major != 1 || (minor != 1 && minor != 2) then
        .error { problem := "found incompatible YAML document", mark := t.start }
      else directives rest true handles
    | .tagDirective handle beginning =>
      if handles.any (·.1 == handle) then .error { problem := "found duplicate %TAG directive", mark := t.start }
      else directives rest versioned (handles ++ [(handle, beginning)])
    | _ => .ok (t :: rest, handles)
  | [], _, handles => .ok ([], handles)

def withDirectives (r : Reading) : Except Fault Reading := do
  let (tokens, handles) ← directives r.tokens false []
  return { r with tokens, handles := handles ++ defaultHandles.filter fun (h, _) => !handles.any (·.1 == h) }

def startDocument (r : Reading) (implicit : Bool) : Step := do
  let r := if implicit then r else { r with tokens := r.tokens.dropWhile fun t => t.kind == .documentEnd }
  let t ← r.peek
  let isBare := match t.kind with
    | .version .. | .tagDirective .. | .documentStart | .streamEnd => false
    | _ => true
  if implicit && isBare then
    let r ← r.withDirectives
    ((r.toward .documentEnd).goTo .blockNode).emit .documentStart t.start
  else if t.kind == .streamEnd then (r.goTo .done).emit .streamEnd t.start
  else
    let r ← r.withDirectives
    let content ← r.peek
    if content.kind == .documentStart then
      ((r.toward .documentEnd).goTo .documentContent).skip.emit .documentStart t.start
    else .error { problem := "did not find expected <document start>", mark := content.start }

def endDocument (r : Reading) : Step := do
  let t ← r.peek
  let r := if t.kind == .documentEnd then r.skip else r
  ({ r with handles := [] }.goTo .document).emit .documentEnd t.start

/-- A tag in full; a handle that is not known is a fault. -/
def resolveTag (r : Reading) (start mark : Mark) (handle : String) (suffix : Bytes) : Except Fault Tag :=
  if handle.isEmpty then .ok ⟨suffix⟩
  else
    match r.handles.find? fun (h, _) => h == handle with
    | some (_, beginning) => .ok ⟨beginning ++ suffix⟩
    | none => fault "while parsing a node" start "found undefined tag handle" mark

def properties (r : Reading) (start : Mark) : Except Fault (Properties × Reading) := do
  let t ← r.peek
  match t.kind with
  | .anchor name =>
    let r := r.skip
    let t ← r.peek
    match t.kind with
    | .tag handle suffix => do return (⟨some name, some (← r.resolveTag start t.start handle suffix)⟩, r.skip)
    | _ => return (⟨some name, none⟩, r)
  | .tag handle suffix =>
    let after := r.skip
    let next ← after.peek
    let tag ← r.resolveTag start t.start handle suffix
    match next.kind with
    | .anchor name => return (⟨some name, some tag⟩, after.skip)
    | _ => return (⟨none, some tag⟩, after)
  | _ => return ({}, r)

def node (r : Reading) (inBlock indentless : Bool) : Step := do
  let t ← r.peek
  match t.kind with
  | .alias name => r.pop.skip.emit (.alias name) t.start
  | _ =>
    let start := t.start
    let (p, r) ← r.properties start
    let t ← r.peek
    match t.kind, inBlock with
    | .blockEntry, _ =>
      if indentless then (r.goTo .indentlessEntry).emit (.sequenceStart p) start
      else other r p start t
    | .scalar text style, _ => r.pop.skip.emit (.scalar p text style) start
    | .flowSequenceStart, _ => (r.goTo (.flowSequenceEntry true)).emit (.sequenceStart p) start
    | .flowMappingStart, _ => (r.goTo (.flowMappingKey true)).emit (.mappingStart p) start
    | .blockSequenceStart, true => (r.goTo (.blockSequenceEntry true)).emit (.sequenceStart p) start
    | .blockMappingStart, true => (r.goTo (.blockMappingKey true)).emit (.mappingStart p) start
    | _, _ => other r p start t
where
  /-- What is no content: nothing stands there, if an anchor or a tag does. -/
  other (r : Reading) (p : Properties) (start : Mark) (t : Token) : Step :=
    if p.anchor?.isSome || p.tag?.isSome then r.pop.emit (.scalar p "" .plain) start
    else
      fault (if inBlock then "while parsing a block node" else "while parsing a flow node") start
        "did not find expected node content" t.start

def nodeUnless (r : Reading) (stops : List TokenKind) (next : Place) (inBlock indentless : Bool) (mark : Mark) :
    Step := do
  let t ← r.peek
  if stops.contains t.kind then (r.goTo next).empty mark
  else (r.toward next).node inBlock indentless

def blockSequenceEntry (r : Reading) : Step := do
  let t ← r.peek
  match t.kind with
  | .blockEntry => r.skip.nodeUnless [.blockEntry, .blockEnd] (.blockSequenceEntry false) true false t.stop
  | .blockEnd => r.leave.skip.emit .sequenceEnd t.start
  | _ => fault "while parsing a block collection" (r.starts.headD {}) "did not find expected '-' indicator" t.start

def indentlessEntry (r : Reading) : Step := do
  let t ← r.peek
  match t.kind with
  | .blockEntry => r.skip.nodeUnless [.blockEntry, .key, .value, .blockEnd] .indentlessEntry true false t.stop
  | _ => r.pop.emit .sequenceEnd t.start

def blockMappingKey (r : Reading) : Step := do
  let t ← r.peek
  match t.kind with
  | .key => r.skip.nodeUnless [.key, .value, .blockEnd] .blockMappingValue true true t.stop
  | .blockEnd => r.leave.skip.emit .mappingEnd t.start
  | _ => fault "while parsing a block mapping" (r.starts.headD {}) "did not find expected key" t.start

def blockMappingValue (r : Reading) : Step := do
  let t ← r.peek
  match t.kind with
  | .value => r.skip.nodeUnless [.key, .value, .blockEnd] (.blockMappingKey false) true true t.stop
  | _ => (r.goTo (.blockMappingKey false)).empty t.start

def separator (r : Reading) (first : Bool) (context problem : String) : Except Fault Reading := do
  if first then return r
  else
    let t ← r.peek
    if t.kind == .flowEntry then return r.skip else fault context (r.starts.headD {}) problem t.start

def flowSequenceEntry (r : Reading) (first : Bool) : Step := do
  let t ← r.peek
  if t.kind == .flowSequenceEnd then r.leave.skip.emit .sequenceEnd t.start
  else
    let r ← r.separator first "while parsing a flow sequence" "did not find expected ',' or ']'"
    let t ← r.peek
    match t.kind with
    | .key => (r.goTo .flowPairKey).skip.emit (.mappingStart {}) t.start
    | .flowSequenceEnd => r.leave.skip.emit .sequenceEnd t.start
    | _ => (r.toward (.flowSequenceEntry false)).node false false

def flowPairKey (r : Reading) : Step := do
  let t ← r.peek
  if [.value, .flowEntry, .flowSequenceEnd].contains t.kind then (r.goTo .flowPairValue).skip.empty t.stop
  else (r.toward .flowPairValue).node false false

def flowPairValue (r : Reading) : Step := do
  let t ← r.peek
  if t.kind == .value then r.skip.nodeUnless [.flowEntry, .flowSequenceEnd] .flowPairEnd false false t.start
  else (r.goTo .flowPairEnd).empty t.start

def flowPairEnd (r : Reading) : Step := do
  let t ← r.peek
  (r.goTo (.flowSequenceEntry false)).emit .mappingEnd t.start

def flowMappingKey (r : Reading) (first : Bool) : Step := do
  let t ← r.peek
  if t.kind == .flowMappingEnd then r.leave.skip.emit .mappingEnd t.start
  else
    let r ← r.separator first "while parsing a flow mapping" "did not find expected ',' or '\x7d'"
    let t ← r.peek
    match t.kind with
    | .key => r.skip.nodeUnless [.value, .flowEntry, .flowMappingEnd] .flowMappingValue false false t.start
    | .flowMappingEnd => r.leave.skip.emit .mappingEnd t.start
    | _ => (r.toward .flowMappingEmptyValue).node false false

def flowMappingValue (r : Reading) : Step := do
  let t ← r.peek
  if t.kind == .value then
    r.skip.nodeUnless [.flowEntry, .flowMappingEnd] (.flowMappingKey false) false false t.start
  else (r.goTo (.flowMappingKey false)).empty t.start

def begin (r : Reading) (first : Bool) : Except Fault Reading := do
  if first then
    let t ← r.peek
    return r.enter t.start
  else return r

def next (r : Reading) : Step := do
  match r.place with
  | .implicitDocument => r.startDocument true
  | .document => r.startDocument false
  | .documentContent =>
    let t ← r.peek
    match t.kind with
    | .version .. | .tagDirective .. | .documentStart | .documentEnd | .streamEnd => r.pop.empty t.start
    | _ => r.node true false
  | .documentEnd => r.endDocument
  | .blockNode => r.node true false
  | .blockSequenceEntry first => do (← r.begin first).blockSequenceEntry
  | .indentlessEntry => r.indentlessEntry
  | .blockMappingKey first => do (← r.begin first).blockMappingKey
  | .blockMappingValue => r.blockMappingValue
  | .flowSequenceEntry first => do (← r.begin first).flowSequenceEntry first
  | .flowPairKey => r.flowPairKey
  | .flowPairValue => r.flowPairValue
  | .flowPairEnd => r.flowPairEnd
  | .flowMappingKey first => do (← r.begin first).flowMappingKey first
  | .flowMappingValue => r.flowMappingValue
  | .flowMappingEmptyValue =>
    let t ← r.peek
    (r.goTo (.flowMappingKey false)).empty t.start
  | .done => .error default

def run : Nat → Reading → List Event → List Event × Option Fault
  | 0, _, events => (events.reverse, none)
  | fuel + 1, r, events =>
    match r.next with
    | .error e => (events.reverse, some e)
    | .ok (event, r) =>
      if event.kind == .streamEnd then ((event :: events).reverse, none) else run fuel r (event :: events)

end Reading

/-- The events of a text, and the fault after the last one if they are not all. Every token gives at most four. -/
def events (t : Text) : List Event × Option Fault :=
  let (tokens, fault?) := tokens t
  Reading.run (4 * tokens.length + 8) { tokens, fault? } []

end HostProbe.Yaml
