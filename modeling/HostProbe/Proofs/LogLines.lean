import HostProbe.Log.Line
import Mathlib.Data.List.Basic
import Mathlib.Data.String.Basic

/-! Lines of the log behind the source location: the fields as they were recorded and then the message, wherever among
them it was recorded. A sink that fails leaves what it has taken until then, and so does a value; the failure is told. -/
namespace HostProbe.Log

/-! ### The text of an event -/

def Value.beside (v : Value) : String :=
  match v with
  | .int _ | .bool _ => v.plain
  | .real _ | .text _ | .custom .. => "\"" ++ v.plain ++ "\""

def Field.pair (f : Field) : String := f.name ++ ":" ++ f.value.beside

namespace Event

/-- All fields but the message, in the order in which they were recorded. -/
def named (e : Event) : List Field := e.fields.filter fun f => !f.isMessage

def message (e : Event) : String := String.join ((e.fields.filter Field.isMessage).map fun f => f.value.plain)

def shape (e : Event) : String :=
  (if e.named.isEmpty then "" else " | " ++ ",".intercalate (e.named.map Field.pair)) ++
    (if e.message.isEmpty then "" else " | " ++ e.message)

/-- Every value of the event comes to its end. -/
def Formats (e : Event) : Prop := ∀ f ∈ e.fields, f.value.fails = false

/-- So does what it holds of a message. -/
def MessageFormats (e : Event) : Prop := ∀ f ∈ e.fields, f.isMessage = true → f.value.fails = false

end Event

/-! ### The steps of a line -/

def fieldSteps : (before : Nat) → List Field → List Step
  | _, [] => []
  | before, f :: fields =>
    if f.isMessage then f.value.failure ++ fieldSteps before fields
    else f.steps (if before = 0 then " | " else ",") ++ fieldSteps (before + 1) fields

def messageSteps (message : String) : List Step := if message.isEmpty then [] else [" | ", message].map Step.text

namespace Event

def steps (e : Event) : List Step := fieldSteps 0 e.fields ++ messageSteps e.message

def start (e : Event) (time source : String) : List Step :=
  [time, " | SYSPROBE | ", e.level.title, " | ", "(", source, ")"].map Step.text

end Event

theorem failure_of_formats {v : Value} (formats : v.fails = false) : v.failure = [] := by
  rw [Value.failure, formats]
  rfl

theorem failure_mem_failure {v : Value} (fails : v.fails = true) : Step.failure ∈ v.failure := by
  rw [Value.failure, fails]
  exact List.mem_singleton_self _

theorem failure_mem_steps {f : Field} (fails : f.value.fails = true) (separator : String) :
    Step.failure ∈ f.steps separator := by
  have inner := failure_mem_failure fails
  rw [Field.steps, Value.steps]
  split <;> simp [inner]

/-- A field that fails is a failure among the steps, and so is a message that does. -/
theorem failure_mem_fieldSteps {fields : List Field} (fails : ¬∀ f ∈ fields, f.value.fails = false) (before : Nat) :
    Step.failure ∈ fieldSteps before fields := by
  induction fields generalizing before with
  | nil => exact absurd (List.forall_mem_nil _) fails
  | cons f fields ih =>
    rw [List.forall_mem_cons, not_and_or, Bool.not_eq_false] at fails
    rw [fieldSteps]
    split
    · exact List.mem_append.mpr (fails.imp failure_mem_failure fun others => ih others _)
    · exact List.mem_append.mpr (fails.imp (failure_mem_steps · _) fun others => ih others _)

/-- Of the message nothing is seen among the fields. -/
theorem fieldSteps_eq {fields : List Field} (formats : ∀ f ∈ fields, f.isMessage = true → f.value.fails = false)
    (before : Nat) : fieldSteps before fields = fieldSteps before (fields.filter fun f => !f.isMessage) := by
  induction fields generalizing before with
  | nil => rfl
  | cons f fields ih =>
    obtain ⟨first, others⟩ := List.forall_mem_cons.mp formats
    cases kind : f.isMessage with
    | true =>
      rw [List.filter_cons_of_neg (by simp [kind]), fieldSteps, if_pos kind, failure_of_formats (first kind),
        List.nil_append, ih others]
    | false =>
      have named : ¬f.isMessage = true := Bool.not_eq_true _ ▸ kind
      rw [List.filter_cons_of_pos (by simp [kind]), fieldSteps, fieldSteps, if_neg named, if_neg named, ih others]

/-! #### Their text -/

/-- The steps are pieces of text, which together are the given one. -/
def Spells (steps : List Step) (s : String) : Prop := ∃ pieces, steps = pieces.map Step.text ∧ String.join pieces = s

section spelling

variable {steps others : List Step} {s t : String}

theorem spells_pieces (pieces : List String) : Spells (pieces.map Step.text) (String.join pieces) := ⟨pieces, rfl, rfl⟩

theorem spells_nil : Spells [] "" := ⟨[], rfl, rfl⟩

theorem Spells.append (first : Spells steps s) (second : Spells others t) : Spells (steps ++ others) (s ++ t) := by
  obtain ⟨pieces, rfl, rfl⟩ := first
  obtain ⟨more, rfl, rfl⟩ := second
  exact ⟨pieces ++ more, List.map_append.symm, String.join_append⟩

theorem spells_value {v : Value} (formats : v.fails = false) : Spells v.steps v.beside := by
  have inner : Spells (v.parts.map Step.text ++ v.failure) v.plain := by
    rw [failure_of_formats formats, List.append_nil]
    exact spells_pieces v.parts
  have quote : Spells [.text "\""] "\"" := spells_pieces ["\""]
  cases v with
  | int n | bool b => exact inner
  | real x | text s | custom parts fails => exact (quote.append inner).append quote

theorem spells_field {f : Field} (formats : f.value.fails = false) (separator : String) :
    Spells (f.steps separator) (separator ++ f.pair) := by
  have name : String.join [separator, f.name, ":"] = separator ++ (f.name ++ ":") := by
    simp only [String.join_cons, String.join_nil, String.append_empty]
  have both := (spells_pieces [separator, f.name, ":"]).append (spells_value formats)
  rwa [name, String.append_assoc] at both

/-- A comma stands before every field but the first. -/
theorem spells_fieldSteps_succ {fields : List Field} (formats : ∀ f ∈ fields, f.value.fails = false)
    (named : ∀ f ∈ fields, f.isMessage = false) (before : Nat) :
    Spells (fieldSteps (before + 1) fields) (String.join (fields.map fun f => "," ++ f.pair)) := by
  induction fields generalizing before with
  | nil => exact spells_nil
  | cons f fields ih =>
    obtain ⟨first, others⟩ := List.forall_mem_cons.mp formats
    obtain ⟨kind, kinds⟩ := List.forall_mem_cons.mp named
    rw [fieldSteps, if_neg (Bool.not_eq_true _ ▸ kind), if_neg (Nat.succ_ne_zero before), List.map_cons, String.join_cons]
    exact (spells_field first ",").append (ih others kinds _)

theorem intercalate_cons (separator first : String) (others : List String) :
    separator.intercalate (first :: others) = first ++ String.join (others.map (separator ++ ·)) := by
  induction others generalizing first with
  | nil => rw [String.intercalate_singleton, List.map_nil, String.join_nil, String.append_empty]
  | cons other others ih =>
    rw [String.intercalate_cons_cons, ih, List.map_cons, String.join_cons, String.append_assoc, String.append_assoc]

/-- Fields stand behind a bar, with commas between them. -/
theorem spells_fieldSteps_zero {fields : List Field} (formats : ∀ f ∈ fields, f.value.fails = false)
    (named : ∀ f ∈ fields, f.isMessage = false) : Spells (fieldSteps 0 fields)
      (if fields.isEmpty then "" else " | " ++ ",".intercalate (fields.map Field.pair)) := by
  cases fields with
  | nil => exact spells_nil
  | cons f fields =>
    obtain ⟨first, others⟩ := List.forall_mem_cons.mp formats
    obtain ⟨kind, kinds⟩ := List.forall_mem_cons.mp named
    have both := (spells_field first " | ").append (spells_fieldSteps_succ others kinds 0)
    rw [fieldSteps, if_neg (Bool.not_eq_true _ ▸ kind), if_pos rfl, List.map_cons, intercalate_cons, List.map_map]
    rwa [String.append_assoc] at both

theorem spells_messageSteps (message : String) :
    Spells (messageSteps message) (if message.isEmpty then "" else " | " ++ message) := by
  rw [messageSteps]
  split
  · exact spells_nil
  · exact ⟨_, rfl, by simp only [String.join_cons, String.join_nil, String.append_empty]⟩

/-- Together the steps are the text of the event. -/
theorem Event.spells_steps {e : Event} (formats : e.Formats) : Spells e.steps e.shape := by
  rw [steps, fieldSteps_eq fun f member _ => formats f member]
  refine (spells_fieldSteps_zero (fun f member => ?_) fun f member => ?_).append (spells_messageSteps e.message)
  · exact formats f (List.mem_filter.mp member).1
  · exact Bool.not_eq_true' _ ▸ (List.mem_filter.mp member).2

end spelling

/-! ### Writing -/

/-- The sink takes the pieces whole, one after the other. -/
def Sink.Takes (sink : Sink) (held pieces : List String) : Prop :=
  ∀ before piece after, pieces = before ++ piece :: after → sink (held ++ before) piece = none

/-- What a sink holds after steps were taken one after the other: all pieces, each of which it took whole; or those
before the first on which it failed, and what it took of that one; or those before a failure of what was to be
written. -/
inductive Ends (sink : Sink) (held : List String) (steps : List Step) : Written → Prop
  | whole {pieces : List String} (all : steps = pieces.map Step.text) (taken : sink.Takes held pieces) :
      Ends sink held steps { pieces := held ++ pieces, refused := false }
  | refused {before : List String} {after : List Step} {piece : String} {count : Nat}
      (split : steps = before.map Step.text ++ .text piece :: after) (taken : sink.Takes held before)
      (fails : sink (held ++ before) piece = some count) :
      Ends sink held steps
        { pieces := held ++ before ++ [String.ofList (piece.toList.take count)], refused := true }
  | failed {before : List String} {after : List Step} (split : steps = before.map Step.text ++ .failure :: after)
      (taken : sink.Takes held before) : Ends sink held steps { pieces := held ++ before, refused := true }

section writing

variable {sink : Sink} {w : Written}

theorem takes_nil (held : List String) : sink.Takes held [] := fun _ _ _ split => by simp at split

theorem takes_cons {held pieces : List String} {piece : String} (first : sink held piece = none)
    (others : sink.Takes (held ++ [piece]) pieces) : sink.Takes held (piece :: pieces) := by
  rintro (_ | ⟨_, before⟩) p after split
  · cases split
    rw [List.append_nil]
    exact first
  · cases split
    rw [List.append_cons]
    exact others before p after rfl

theorem ends_cons {held : List String} {steps : List Step} {piece : String} (first : sink held piece = none)
    (others : Ends sink (held ++ [piece]) steps w) : Ends sink held (.text piece :: steps) w := by
  cases others with
  | whole all taken =>
    rw [← List.append_cons]
    exact .whole (congrArg _ all) (takes_cons first taken)
  | refused split taken fails =>
    rw [← List.append_cons] at fails ⊢
    exact .refused (congrArg _ split) (takes_cons first taken) fails
  | failed split taken =>
    rw [← List.append_cons]
    exact .failed (congrArg _ split) (takes_cons first taken)

namespace Written

theorem push_of_refused (refused : w.refused = true) (step : Step) : w.push sink step = w := if_pos refused

theorem append_cons (w : Written) (step : Step) (steps : List Step) :
    w.append sink (step :: steps) = (w.push sink step).append sink steps := rfl

theorem append_append (w : Written) (steps others : List Step) :
    w.append sink (steps ++ others) = (w.append sink steps).append sink others := List.foldl_append

/-- After a failure nothing is written. -/
theorem append_of_refused (refused : w.refused = true) (steps : List Step) : w.append sink steps = w := by
  induction steps with
  | nil => rfl
  | cons step steps ih => rw [append_cons, push_of_refused refused, ih]

theorem refused_append_failure (w : Written) (steps : List Step) :
    (w.append sink (.failure :: steps)).refused = true := by
  rw [append_cons]
  cases before : w.refused with
  | true => rw [push_of_refused before, append_of_refused before, before]
  | false =>
    have pushed : w.push sink .failure = { w with refused := true } := if_neg (Bool.not_eq_true _ ▸ before)
    rw [pushed, append_of_refused rfl]

/-- Steps taken one after the other end in one of the three ways. -/
theorem ends_append (sink : Sink) (held : List String) (steps : List Step) :
    Ends sink held steps (Written.append sink { pieces := held } steps) := by
  induction steps generalizing held with
  | nil =>
    have whole : Ends sink held [] _ := .whole (List.map_nil.symm) (takes_nil held)
    rw [List.append_nil] at whole
    exact whole
  | cons step steps ih =>
    rw [append_cons]
    cases step with
    | failure =>
      have failed : Ends sink held (.failure :: steps) _ := .failed (List.nil_append _).symm (takes_nil held)
      have pushed : Written.push sink { pieces := held } .failure = { pieces := held, refused := true } := rfl
      rw [List.append_nil] at failed
      rw [pushed, append_of_refused rfl]
      exact failed
    | text piece =>
      cases answer : sink held piece with
      | none =>
        have pushed : Written.push sink { pieces := held } (.text piece) = { pieces := held ++ [piece] } := by
          simp only [push, answer]
          rfl
        rw [pushed]
        exact ends_cons answer (ih _)
      | some count =>
        have pushed : Written.push sink { pieces := held } (.text piece) =
            { pieces := held ++ [String.ofList (piece.toList.take count)], refused := true } := by
          simp only [push, answer]
          rfl
        have fails : sink (held ++ []) piece = some count := by rw [List.append_nil, answer]
        have refused : Ends sink held (.text piece :: steps) _ := .refused (List.nil_append _).symm (takes_nil held) fails
        rw [List.append_nil] at refused
        rw [pushed, append_of_refused rfl]
        exact refused

theorem append_boundless (held pieces : List String) :
    Written.append .boundless { pieces := held } (pieces.map Step.text) = { pieces := held ++ pieces } := by
  induction pieces generalizing held with
  | nil => rw [List.append_nil]; rfl
  | cons piece pieces ih =>
    rw [List.map_cons, append_cons, List.append_cons]
    exact ih _

end Written

/-! #### Fields -/

namespace Line

variable {l : Line}

theorem record_of_refused (refused : l.written.refused = true) (f : Field) : l.record sink f = l := if_pos refused

/-- After a failure no field changes the line. -/
theorem foldl_record_of_refused (refused : l.written.refused = true) (fields : List Field) :
    fields.foldl (record sink) l = l := by
  induction fields with
  | nil => rfl
  | cons f fields ih => rw [List.foldl_cons, record_of_refused refused, ih]

theorem record_message (kept : l.written.refused = false) {f : Field} (message : f.isMessage = true) :
    l.record sink f =
      { l with message := l.message ++ f.value.plain, written := l.written.append sink f.value.failure } := by
  rw [record, if_neg (Bool.not_eq_true _ ▸ kept), if_pos message]

theorem written_record (kept : l.written.refused = false) {f : Field} (named : f.isMessage = false) :
    (l.record sink f).written = l.written.append sink (f.steps (if l.fields = 0 then " | " else ",")) := by
  rw [record, if_neg (Bool.not_eq_true _ ▸ kept), if_neg (Bool.not_eq_true _ ▸ named)]

/-- Only a field that was written is counted. -/
theorem record_named (kept : l.written.refused = false) {f : Field} (named : f.isMessage = false)
    (taken : (l.written.append sink (f.steps (if l.fields = 0 then " | " else ","))).refused = false) :
    l.record sink f = {
      l with
      written := l.written.append sink (f.steps (if l.fields = 0 then " | " else ",")), fields := l.fields + 1 } := by
  rw [record, if_neg (Bool.not_eq_true _ ▸ kept), if_neg (Bool.not_eq_true _ ▸ named)]
  exact congrArg (Line.mk _ · _) (if_neg (Bool.not_eq_true _ ▸ taken))

/-- Recorded one by one, the fields but the message are written as they come, and the message is kept. -/
theorem foldl_record (kept : l.written.refused = false) (fields : List Field) :
    (fields.foldl (record sink) l).written = l.written.append sink (fieldSteps l.fields fields) ∧
      ((fields.foldl (record sink) l).written.refused = false → (fields.foldl (record sink) l).message =
        l.message ++ String.join ((fields.filter Field.isMessage).map fun f => f.value.plain)) := by
  -- the line counts the fields that are written, so it tells what separates the next one
  induction fields generalizing l with
  | nil => exact ⟨rfl, fun _ => String.append_empty.symm⟩
  | cons f fields ih =>
    rw [List.foldl_cons, fieldSteps]
    cases kind : f.isMessage with
    | true =>
      rw [if_pos rfl, Written.append_append]
      cases fails : f.value.fails with
      | true =>
        have failure : f.value.failure = [.failure] := if_pos fails
        have refused : (l.written.append sink [.failure]).refused = true := l.written.refused_append_failure []
        have failed : (l.record sink f).written.refused = true := by rw [record_message kept kind, failure, refused]
        rw [foldl_record_of_refused failed, record_message kept kind, failure, Written.append_of_refused refused]
        exact ⟨rfl, fun kept => absurd kept (refused ▸ Bool.noConfusion)⟩
      | false =>
        rw [record_message kept kind, failure_of_formats fails, List.filter_cons_of_pos kind, List.map_cons,
          String.join_cons, ← String.append_assoc]
        exact ih kept
    | false =>
      rw [if_neg Bool.false_ne_true, List.filter_cons_of_neg (by simp [kind]), Written.append_append]
      cases after : (l.written.append sink (f.steps (if l.fields = 0 then " | " else ","))).refused with
      | true =>
        have failed : (l.record sink f).written.refused = true := by rw [written_record kept kind, after]
        rw [foldl_record_of_refused failed, written_record kept kind, Written.append_of_refused after, after]
        exact ⟨rfl, nofun⟩
      | false =>
        rw [record_named kept kind after]
        exact ih after

theorem finish_eq (l : Line) : l.finish sink = l.written.append sink (messageSteps l.message) := by
  rw [finish, messageSteps]
  split <;> rfl

end Line

/-! #### Events -/

namespace Event

/-- Events are written by their steps: fields as they come, and the message last. -/
theorem writeFields_eq (e : Event) (w : Written) : e.writeFields sink w = w.append sink e.steps := by
  rw [writeFields, Line.finish_eq, steps]
  cases before : w.refused with
  | true =>
    have unchanged : e.fields.foldl (Line.record sink) { written := w } = { written := w } :=
      Line.foldl_record_of_refused before e.fields
    rw [unchanged, Written.append_of_refused before, Written.append_of_refused before]
  | false =>
    obtain ⟨fields, message⟩ := @Line.foldl_record sink { written := w } before e.fields
    generalize e.fields.foldl (Line.record sink) { written := w } = recorded at fields message ⊢
    have written : recorded.written = w.append sink (fieldSteps 0 e.fields) := fields
    rw [Written.append_append, ← written]
    cases after : recorded.written.refused with
    | true => rw [Written.append_of_refused after, Written.append_of_refused after]
    | false =>
      rw [message after, String.empty_append]
      rfl

theorem steps_congr {e other : Event} (formats : e.MessageFormats) (otherFormats : other.MessageFormats)
    (named : other.named = e.named) (message : other.message = e.message) : other.steps = e.steps := by
  rw [steps, steps, fieldSteps_eq formats, fieldSteps_eq otherFormats, message]
  exact congrArg (fieldSteps 0 · ++ _) named

/-- Whatever takes its text, an event with a value that fails is not written whole. -/
theorem refused_of_fails {e : Event} (fails : ¬e.Formats) (w : Written) : (e.writeFields sink w).refused = true := by
  obtain ⟨before, after, split⟩ :=
    List.append_of_mem (List.mem_append_left (messageSteps e.message) (failure_mem_fieldSteps fails 0))
  rw [writeFields_eq, steps, split, Written.append_append]
  exact Written.refused_append_failure _ _

theorem write_eq (e : Event) (time source : String) : e.write sink time source =
    Written.append sink {} (e.start time source ++ e.steps ++ [.text "\n"]) := by
  rw [Written.append_append, Written.append_append, ← writeFields_eq]
  rfl

theorem line_eq {e : Event} (formats : e.Formats) (time source : String) : e.line time source =
    time ++ " | SYSPROBE | " ++ e.level.title ++ " | (" ++ source ++ ")" ++ e.shape ++ "\n" := by
  have start : Spells (e.start time source) _ := spells_pieces _
  have ending : Spells [.text "\n"] _ := spells_pieces ["\n"]
  obtain ⟨pieces, all, text⟩ := (start.append (spells_steps formats)).append ending
  rw [line, write_eq, all, Written.append_boundless, List.nil_append, Written.text, text]
  simp only [String.join_cons, String.join_nil, String.append_empty, String.append_assoc]
  rfl

end Event
end writing

def warning (before behind : List Field) : Event :=
  ⟨.warn, before ++ ⟨"message", .custom ["Swallowed", " error."] false⟩ :: behind⟩

def Sink.roomy (room : Nat) : Sink := fun held piece =>
  let left := room - (String.join held).length
  if piece.length ≤ left then none else some left

/-- Where the message fails, it does matter where it stands. -/
example : ((⟨.warn, [⟨"message", .custom [] true⟩, ⟨"pid", .int 42⟩]⟩ : Event).writeFields .boundless {}).text = "" ∧
    ((⟨.warn, [⟨"pid", .int 42⟩, ⟨"message", .custom [] true⟩]⟩ : Event).writeFields .boundless {}).text =
      " | pid:42" := by decide +kernel

end HostProbe.Log
