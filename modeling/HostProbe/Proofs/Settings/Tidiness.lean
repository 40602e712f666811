import HostProbe.Proofs.Settings.Trees
import HostProbe.Settings.Source
import HostProbe.Settings.Variable

/-! Everything that settings are read from gives tidy trees: documents in both formats, and variables. -/
namespace HostProbe

open Settings (Tree)
open Settings.Tree (Tidy isScalar)

/-! ### Documents from tokens -/

namespace Json

/-- Numbers are scalars, with or without a fraction, an exponent or a sign. -/
theorem Token.isScalar_number? (negative : Bool) (t : Text) :
    ∀ found ∈ number? negative t, isScalar found.1 = true := by
  rw [number?]
  extract_lets significand float? finish fits
  split
  · exact nofun
  have floats (s : Significand) (shift : Int) : ∀ j ∈ float? s shift, isScalar j = true := by
    intro j found
    obtain ⟨x, -, rfl⟩ := Option.map_eq_some_iff.mp found
    rfl
  have finishes (s : Significand) (isWhole : Bool) (t : Text) :
      ∀ found ∈ finish s isWhole t, isScalar found.1 = true := by
    intro found member
    cases t with
    | nil =>
      cases isWhole with
      | true =>
        cases member
        rfl
      | false =>
        obtain ⟨j, made, rfl⟩ := Option.map_eq_some_iff.mp member
        exact floats s 0 j made
    | cons c rest =>
      dsimp only [finish] at member
      split at member
      · obtain ⟨shift, -, member⟩ := Option.bind_eq_some_iff.mp member
        obtain ⟨j, made, member⟩ := Option.bind_eq_some_iff.mp member
        cases member
        exact floats s _ j made
      split at member
      · cases member
        rfl
      · obtain ⟨j, made, member⟩ := Option.bind_eq_some_iff.mp member
        cases member
        exact floats s 0 j made
  split
  · extract_lets digits
    split
    · exact nofun
    · exact finishes _ _ _
  · intro found member
    obtain ⟨⟨j, rest⟩, made, rfl⟩ := Option.map_eq_some_iff.mp member
    have plain := finishes _ _ _ _ made
    cases j <;> exact plain

def Token.Plain (token : Token) : Prop := ∀ j, token = .scalar j → isScalar j = true

/-- Tokens hold scalars only. -/
theorem Token.plain_first? (t : Text) : ∀ found ∈ first? t, found.1.Plain := by
  have bare {token : Token} (mark : ∀ j, token ≠ .scalar j) : token.Plain := fun j same => absurd same (mark j)
  have whole {j : Json} (plain : isScalar j = true) : (scalar j).Plain := fun _ same => scalar.inj same ▸ plain
  intro found member
  unfold first? at member
  split at member
  case h_1 | h_2 | h_3 | h_4 | h_5 | h_6 =>
    cases member
    exact bare (by rintro j ⟨⟩)
  case h_7 | h_8 | h_9 =>
    cases member
    exact whole rfl
  case h_10 =>
    obtain ⟨pair, -, rfl⟩ := Option.map_eq_some_iff.mp member
    exact whole rfl
  case h_11 | h_12 =>
    obtain ⟨⟨j, rest⟩, made, rfl⟩ := Option.map_eq_some_iff.mp member
    exact whole (isScalar_number? _ _ _ made)

theorem Token.plain_all? (fuel : Nat) (t : Text) : ∀ tokens ∈ all? fuel t, ∀ token ∈ tokens, token.Plain := by
  induction fuel generalizing t with
  | zero => exact nofun
  | succ fuel ih =>
    intro tokens member
    rw [all?] at member
    split at member
    · cases member
      exact nofun
    · obtain ⟨⟨token, rest⟩, first, member⟩ := Option.bind_eq_some_iff.mp member
      obtain ⟨others, more, member⟩ := Option.bind_eq_some_iff.mp member
      cases member
      exact List.forall_mem_cons.mpr ⟨plain_first? _ _ first, ih rest others more⟩

def Frame.Tidy : Frame → Prop
  | .list items => ∀ item ∈ items, Settings.Tree.Tidy item
  | .object members _ => Settings.Tree.Tidy (.object members)

structure Assembly.Tidy (a : Assembly) : Prop where
  frames : ∀ frame ∈ a.frames, frame.Tidy
  document : Settings.Tree.Tidy a.document

namespace Assembly

/-- A value in its place keeps the document in progress tidy. -/
theorem Tidy.complete {a : Assembly} (tidy : a.Tidy) {j : Json} (inner : Settings.Tree.Tidy j) :
    (a.complete j).Tidy := by
  obtain ⟨frames, document⟩ := tidy
  rw [Assembly.complete]
  split
  · exact ⟨frames, inner⟩
  · rename_i items rest opened
    rw [opened] at frames
    obtain ⟨first, others⟩ := List.forall_mem_cons.mp frames
    exact ⟨List.forall_mem_cons.mpr ⟨List.forall_mem_cons.mpr ⟨inner, first⟩, others⟩, document⟩
  · rename_i members name rest opened
    rw [opened] at frames
    obtain ⟨first, others⟩ := List.forall_mem_cons.mp frames
    exact ⟨List.forall_mem_cons.mpr ⟨first.setMember inner, others⟩, document⟩

theorem Tidy.enter? {a : Assembly} (tidy : a.Tidy) {frame : Frame} (opened : frame.Tidy) (expected : Expected) :
    ∀ next ∈ a.enter? frame expected, next.Tidy := by
  intro next member
  rw [Assembly.enter?] at member
  split at member
  · cases member
    exact ⟨List.forall_mem_cons.mpr ⟨opened, tidy.frames⟩, tidy.document⟩
  · cases member

theorem Tidy.leave? {a : Assembly} (tidy : a.Tidy) : ∀ next ∈ a.leave?, next.Tidy := by
  intro next member
  rw [Assembly.leave?] at member
  have frames := tidy.frames
  split at member
  · cases member
  · rename_i items rest opened
    rw [opened] at frames
    obtain ⟨first, others⟩ := List.forall_mem_cons.mp frames
    cases member
    have outer : Assembly.Tidy { a with frames := rest } := ⟨others, tidy.document⟩
    exact outer.complete (.list fun item within => first item (List.mem_reverse.mp within))
  · rename_i members name rest opened
    rw [opened] at frames
    obtain ⟨first, others⟩ := List.forall_mem_cons.mp frames
    cases member
    have outer : Assembly.Tidy { a with frames := rest } := ⟨others, tidy.document⟩
    exact outer.complete first

/-- One token more leaves everything tidy that was put together so far. -/
theorem Tidy.take? {a : Assembly} (tidy : a.Tidy) {token : Token} (plain : token.Plain) :
    ∀ next ∈ a.take? token, next.Tidy := by
  have named {members : List (String × Json)} {name : String} {rest : List Frame}
      (opened : a.frames = .object members name :: rest) (other : String) :
      Assembly.Tidy { a with frames := .object members other :: rest, expected := .colon } := by
    have frames := tidy.frames
    rw [opened] at frames
    obtain ⟨first, others⟩ := List.forall_mem_cons.mp frames
    exact ⟨List.forall_mem_cons.mpr ⟨first, others⟩, tidy.document⟩
  have noItems : (Frame.list []).Tidy := List.forall_mem_nil _
  have noMembers : (Frame.object [] "").Tidy := Settings.Tree.Tidy.empty
  have expecting (expected : Expected) : Assembly.Tidy { a with expected } := ⟨tidy.frames, tidy.document⟩
  intro next member
  unfold Assembly.take? at member
  -- A token opens a level, ends a value or a level, or only changes what may follow.
  split at member
  case h_1 | h_2 => exact tidy.enter? noItems _ next member
  case h_3 | h_4 => exact tidy.enter? noMembers _ next member
  case h_5 | h_6 =>
    cases member
    exact tidy.complete (.scalar (plain _ rfl))
  case h_7 | h_10 | h_14 | h_15 => exact tidy.leave? next member
  case h_8 opened | h_9 opened =>
    cases member
    exact named opened _
  case h_11 | h_12 | h_13 =>
    cases member
    exact expecting _
  case h_16 => cases member

end Assembly

/-- Documents are tidy. -/
theorem tidy_read? (t : Text) : ∀ document ∈ read? t, Tidy document := by
  have whole (tokens : List Token) (plain : ∀ token ∈ tokens, token.Plain) (a : Assembly) (tidy : a.Tidy) :
      ∀ last ∈ tokens.foldlM Assembly.take? a, last.Tidy := by
    induction tokens generalizing a with
    | nil =>
      intro last member
      cases member
      exact tidy
    | cons token tokens ih =>
      obtain ⟨first, others⟩ := List.forall_mem_cons.mp plain
      intro last member
      obtain ⟨next, taken, member⟩ := Option.bind_eq_some_iff.mp member
      exact ih others next (tidy.take? first next taken) last member
  intro document member
  obtain ⟨tokens, cut, member⟩ := Option.bind_eq_some_iff.mp member
  obtain ⟨last, taken, member⟩ := Option.bind_eq_some_iff.mp member
  split at member
  · cases member
    exact (whole tokens (Token.plain_all? _ _ tokens cut) {} ⟨nofun, .scalar rfl⟩ last taken).document
  · cases member

end Json

/-! ### Documents from items -/

namespace Yaml

theorem isScalar_plainValue (text : String) : isScalar (plainValue text) = true := by
  unfold plainValue
  extract_lets t
  split
  · rfl
  · split
    · rfl
    · rfl
    · split
      · rfl
      · rfl

theorem isScalar_scalarValue {tag? : Option Tag} {text : String} {style : Style} {j : Json}
    (read : scalarValue tag? text style = .ok j) : isScalar j = true := by
  unfold scalarValue at read
  extract_lets t orElse at read
  have given {α : Type} {expected : String} {value? : Option α} {make : α → Json}
      (plain : ∀ a, isScalar (make a) = true) (read : orElse expected (value?.map make) = .ok j) : isScalar j = true := by
    cases value? with
    | none => cases read
    | some a =>
      cases read
      exact plain a
  split at read
  · exact given (fun _ => rfl) read
  · exact given (fun _ => rfl) read
  · exact given (fun _ => rfl) read
  · split at read
    · cases read
      rfl
    · cases read
  · split at read
    · cases read
      exact isScalar_plainValue text
    · cases read
      rfl

theorem tidy_labelled {tag? : Option Tag} {j : Json} (tidy : Tidy j) : Tidy (labelled tag? j) := by
  unfold labelled
  split
  · exact tidy.nest _
  · exact tidy

namespace Document

/-- What is read, if anything is, has a property. -/
def Yields {α : Type} (P : α → Prop) (read : Read α) : Prop := ∀ p a after, read p = .ok (a, after) → P a

section yields

variable {α β : Type} {P : α → Prop} {Q : β → Prop}

theorem Yields.pure {a : α} (holds : P a) : Yields P (pure a) := by
  intro p other after read
  cases read
  exact holds

theorem Yields.throw (problem : String) : Yields P (throw problem) := nofun

theorem Yields.any (read : Read α) : Yields (fun _ => True) read := fun _ _ _ _ => trivial

theorem Yields.bind {first : Read α} (begun : Yields P first) {rest : α → Read β}
    (ended : ∀ a, P a → Yields Q (rest a)) : Yields Q (first >>= rest) := by
  intro p b after read
  change (first p >>= fun found => rest found.1 found.2) = .ok (b, after) at read
  cases halfway : first p with
  | error problem =>
    rw [halfway] at read
    cases read
  | ok found =>
    rw [halfway] at read
    exact ended found.1 (begun p _ _ halfway) found.2 b after read

theorem Yields.atAnchor {read : Read α} (yields : Yields P read) (d : Document) (id : Nat) :
    Yields P (d.atAnchor id read) := by
  unfold Document.atAnchor
  refine .bind (.any _) fun p _ => ?_
  split
  · exact .throw _
  · exact .bind (.any _) fun _ _ => .bind yields fun a holds => .bind (.any _) fun _ _ => .pure holds

end yields

/-- What so many levels of values, lists and objects give is tidy. -/
structure TidyWithin (d : Document) (fuel : Nat) : Prop where
  value : ∀ depth path, Yields Tidy (d.value fuel depth path)
  listItems : ∀ depth path known, (∀ item ∈ known, Tidy item) → Yields Tidy (d.listItems fuel depth path known)
  objectMembers : ∀ depth path known, Tidy (.object known) → Yields Tidy (d.objectMembers fuel depth path known)

section levels

variable {d : Document} {fuel : Nat} (within : d.TidyWithin fuel)

include within

/-- A value is tidy if what lies a level deeper is. -/
theorem TidyWithin.value_succ (depth : Nat) (path : String) : Yields Tidy (d.value (fuel + 1) depth path) := by
  rw [Document.value]
  refine .bind (.any _) ?_
  rintro ⟨item, mark⟩ -
  dsimp -zeta only
  extract_lets whole
  have wholes (tag? : Option Tag) {read : Nat → Read Json} (inner : ∀ depth, Yields Tidy (read depth)) :
      Yields Tidy (whole tag? read) := by
    cases depth with
    | zero => exact .throw _
    | succ depth => exact .bind (inner depth) fun j tidy => .pure (tidy_labelled tidy)
  split
  · exact (within.value _ _).atAnchor d _
  · split
    · rename_i read
      exact .pure (tidy_labelled (.scalar (isScalar_scalarValue read)))
    · exact .throw _
  · exact wholes _ fun depth => within.listItems _ _ _ nofun
  · exact wholes _ fun depth => within.objectMembers _ _ _ .empty
  · exact .pure (.scalar rfl)
  · exact .pure (.scalar rfl)
  · exact .pure (.scalar rfl)

theorem TidyWithin.listItems_succ (depth : Nat) (path : String) (known : List Json)
    (tidy : ∀ item ∈ known, Tidy item) : Yields Tidy (d.listItems (fuel + 1) depth path known) := by
  rw [Document.listItems]
  refine .bind (.any _) fun item _ => ?_
  split
  · exact .bind (.any _) fun _ _ => .pure (.list fun item member => tidy item (List.mem_reverse.mp member))
  · exact .bind (within.value _ _) fun j inner =>
      within.listItems _ _ _ (List.forall_mem_cons.mpr ⟨inner, tidy⟩)

theorem TidyWithin.objectMembers_succ (depth : Nat) (path : String) (known : List (String × Json))
    (tidy : Tidy (.object known)) : Yields Tidy (d.objectMembers (fuel + 1) depth path known) := by
  rw [Document.objectMembers]
  refine .bind (.any _) fun item _ => ?_
  split
  · exact .bind (.any _) fun _ _ => .pure tidy
  · exact .bind (.any _) fun name _ => .bind (within.value _ _) fun j inner =>
      within.objectMembers _ _ _ (tidy.setMember inner)

end levels

/-- However many levels there are, what they give is tidy. -/
theorem tidyWithin (d : Document) (fuel : Nat) : d.TidyWithin fuel := by
  -- The three readers call each other one level down, so that all of them are needed at once.
  induction fuel with
  | zero =>
    constructor
    · intro depth path
      rw [value]
      exact .throw _
    · intro depth path known _
      rw [listItems]
      exact .throw _
    · intro depth path known _
      rw [objectMembers]
      exact .throw _
  | succ fuel ih => exact ⟨ih.value_succ, ih.listItems_succ, ih.objectMembers_succ⟩

/-- Documents are tidy. -/
theorem tidy_root (d : Document) (fuel depth : Nat) : Yields Tidy (d.root fuel depth) := by
  induction depth with
  | zero =>
    rw [root]
    exact .throw _
  | succ depth ih =>
    rw [root]
    refine .bind (.any _) ?_
    rintro ⟨item, mark⟩ -
    dsimp only
    split
    · exact ih.atAnchor d _
    · exact (tidyWithin d fuel).objectMembers _ _ _ .empty
    · exact .pure .empty
    · exact .pure .empty
    · split
      · exact .throw _
      · exact .throw _
    · exact .throw _

end Document

/-- Documents are tidy. -/
theorem tidy_readObject {t : Text} {document : Json} (read : readObject t = .ok document) : Tidy document := by
  unfold readObject at read
  obtain ⟨events, fault?⟩ := events t
  dsimp -zeta only at read
  extract_lets d fuel at read
  cases ended : d.root fuel 128 {} with
  | error problem =>
    rw [StateT.run, ended] at read
    cases read
  | ok found =>
    rw [StateT.run, ended] at read
    dsimp only [bind, Except.bind] at read
    split at read
    · cases read
    · split at read
      · cases read
      · cases read
        exact Document.tidy_root d fuel 128 {} _ _ ended

end Yaml

/-! ### Variables -/

namespace Settings

theorem isScalar_bareValue (t : Text) : isScalar (bareValue t) = true := by
  unfold bareValue
  extract_lets t
  split
  · rfl
  · split <;> rfl

structure TidyWithin (fuel : Nat) : Prop where
  value : ∀ t, ∀ found ∈ value? fuel t, Tidy found.1
  items : ∀ known t, (∀ item ∈ known, Tidy item) → ∀ found ∈ valueItems? fuel known t, Tidy found.1
  members : ∀ known t, Tidy (.object known) → ∀ found ∈ valueMembers? fuel known t, Tidy found.1

section levels

variable {fuel : Nat} (within : TidyWithin fuel)

include within

/-- A value is tidy if what lies a level deeper is. -/
theorem TidyWithin.value_succ (t : Text) : ∀ found ∈ value? (fuel + 1) t, Tidy found.1 := by
  intro found member
  rw [value?] at member
  obtain ⟨⟨tree, rest⟩, made, rfl⟩ := Option.map_eq_some_iff.mp member
  dsimp only
  split at made
  · cases made
    exact .scalar rfl
  · cases made
    exact .scalar rfl
  · exact within.items _ _ (List.forall_mem_nil _) _ made
  · exact within.members _ _ .empty _ made
  · obtain ⟨pair, -, same⟩ := Option.map_eq_some_iff.mp made
    cases same
    exact .scalar rfl
  · cases made
    exact .scalar rfl
  · cases made
  · cases made
    exact .scalar (isScalar_bareValue _)

theorem TidyWithin.items_succ (known : List Tree) (t : Text) (tidy : ∀ item ∈ known, Tidy item) :
    ∀ found ∈ valueItems? (fuel + 1) known t, Tidy found.1 := by
  intro found member
  unfold valueItems? at member
  split at member
  · cases member
    exact .list fun item among => tidy item (List.mem_reverse.mp among)
  · obtain ⟨⟨item, rest⟩, made, member⟩ := Option.bind_eq_some_iff.mp member
    have grown := List.forall_mem_cons.mpr ⟨within.value _ _ made, tidy⟩
    dsimp only at member
    split at member
    · exact within.items _ _ grown _ member
    · cases member
      exact .list fun item among => grown item (List.mem_reverse.mp among)
    · cases member

theorem TidyWithin.members_succ (known : List (String × Tree)) (t : Text) (tidy : Tidy (.object known)) :
    ∀ found ∈ valueMembers? (fuel + 1) known t, Tidy found.1 := by
  intro found member
  unfold valueMembers? at member
  split at member
  · cases member
    exact tidy
  · obtain ⟨⟨name, rest⟩, -, member⟩ := Option.bind_eq_some_iff.mp member
    dsimp only at member
    split at member
    · obtain ⟨⟨item, rest⟩, made, member⟩ := Option.bind_eq_some_iff.mp member
      have grown : Tidy (.object (Json.setMember (String.ofList name) item known)) :=
        tidy.setMember (within.value _ _ made)
      dsimp only at member
      split at member
      · exact within.members _ _ grown _ member
      · cases member
        exact grown
      · cases member
    · cases member

end levels

/-- However many levels there are, what they give is tidy. -/
theorem tidyWithin (fuel : Nat) : TidyWithin fuel := by
  induction fuel with
  | zero =>
    constructor
    · intro t
      rw [value?]
      exact nofun
    · intro known t _
      rw [valueItems?]
      exact nofun
    · intro known t _
      rw [valueMembers?]
      exact nofun
  | succ fuel ih => exact ⟨ih.value_succ, ih.items_succ, ih.members_succ⟩

/-- The value of a variable is tidy, and so is what a variable sets. -/
theorem tidy_variableValue (text : String) : Tidy (variableValue text) := by
  unfold variableValue
  extract_lets t
  split
  · rename_i read
    exact (tidyWithin _).value _ _ read
  · exact .scalar rfl

/-- The settings in a text are tidy, whatever the format. -/
theorem tidy_formatRead (format : Format) {t : Text} {tree : Tree} (read : format.read t = .ok tree) : Tidy tree := by
  cases format with
  | yaml => exact Yaml.tidy_readObject read
  | json =>
    simp only [Format.read] at read
    split at read
    · rename_i document
      cases read
      exact Json.tidy_read? t _ document
    · cases read
    · cases read

end Settings
end HostProbe
