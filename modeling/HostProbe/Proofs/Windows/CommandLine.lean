import HostProbe.Windows.CommandLine
import Mathlib.Data.List.TakeWhile

/-! Writing a command line by the rules of quoting, and cutting it again: whatever the program's name and the arguments
hold, and however they were quoted and spaced, the line is cut into that name and those arguments. -/
namespace HostProbe.Windows.CommandLine

/-! ### Written lines -/

/-- What stands between the quotes of an argument. Backslashes count as met until the next character is seen: before a
quote and at the end they are doubled, and a quote has one more before it. -/
def escaped (met : Nat) : Text → Text
  | [] => List.replicate (2 * met) '\\'
  | '\\' :: rest => escaped (met + 1) rest
  | '"' :: rest => List.replicate (2 * met + 1) '\\' ++ '"' :: escaped 0 rest
  | c :: rest => List.replicate met '\\' ++ c :: escaped 0 rest

/-- Forms of an argument: as it is, if it has characters and none of them matters to the reader, or between quotes. -/
inductive ArgumentForm (argument : Text) : Text → Prop
  | bare (nonempty : argument ≠ []) (plain : ∀ c ∈ argument, isBlank c = false ∧ c ≠ '"') :
      ArgumentForm argument argument
  | quoted : ArgumentForm argument ('"' :: (escaped 0 argument ++ ['"']))

/-- Forms of a program's name, in which backslashes are never special. -/
inductive ProgramForm (program : Text) : Text → Prop
  | bare (nonempty : program ≠ []) (unbroken : ∀ c ∈ program, isBlank c = false) : ProgramForm program program
  | quoted : ProgramForm program ('"' :: (program ++ ['"']))

/-- Arguments in some form each, with one or more blanks before it. -/
inductive Joined : List Text → Text → Prop
  | nil : Joined [] []
  | cons {argument form : Text} {arguments : List Text} {rest : Text} (blanks : Text) (separated : blanks ≠ [])
      (blank : ∀ c ∈ blanks, isBlank c = true) (formed : ArgumentForm argument form) (others : Joined arguments rest) :
      Joined (argument :: arguments) (blanks ++ (form ++ rest))

/-- The line is a program's name with arguments behind it. -/
def Written (program : Text) (arguments : List Text) (line : Text) : Prop :=
  ∃ name rest, ProgramForm program name ∧ Joined arguments rest ∧ line = name ++ rest

/-- Quotes around everything, and one space before each argument. -/
theorem exists_written (program : Text) (arguments : List Text) : ∃ line, Written program arguments line := by
  have joined : ∃ rest, Joined arguments rest := by
    induction arguments with
    | nil => exact ⟨[], .nil⟩
    | cons argument arguments ih =>
      obtain ⟨rest, others⟩ := ih
      exact ⟨_, .cons [' '] (by decide) (by decide) .quoted others⟩
  obtain ⟨rest, joined⟩ := joined
  exact ⟨_, _, rest, .quoted, joined, rfl⟩

/-! ### Reading one argument -/

namespace Reading

variable {r : Reading} {found : List Text} {read : Text} {met : Nat} {c : Char}

/-- Between the quotes of an argument; what was read of it stands newest first. -/
def inside (found : List Text) (read : Text) (met : Nat) : Reading :=
  { found, current := some read, quoted := true, slashes := met }

theorem foldl_inside_slashes (count : Nat) :
    (List.replicate count '\\').foldl step (inside found read met) = inside found read (met + count) := by
  induction count generalizing met with
  | zero => rfl
  | succ count ih =>
    rw [List.replicate_succ, List.foldl_cons]
    exact ih.trans (congrArg _ (Nat.add_right_comm met 1 count))

/-- A quote after an odd number of backslashes is one of the argument's characters. -/
theorem step_inside_odd : (inside found read (2 * met + 1)).step '"' =
    inside found ('"' :: (List.replicate met '\\' ++ read)) 0 := by
  have half : (2 * met + 1) / 2 = met := by omega
  have odd : (2 * met + 1) % 2 = 1 := by omega
  simp [step, quote, inside, withSlashes, half, odd]

/-- A quote after an even number of backslashes ends the quotation. -/
theorem step_inside_even : (inside found read (2 * met)).step '"' =
    { found, current := some (List.replicate met '\\' ++ read), closed := true } := by
  have half : 2 * met / 2 = met := by omega
  have even : 2 * met % 2 = 0 := by omega
  simp [step, quote, inside, withSlashes, half, even]

theorem step_inside_other (slash : c ≠ '\\') (quote : c ≠ '"') : (inside found read met).step c =
    inside found (c :: (List.replicate met '\\' ++ read)) 0 := by
  simp [step, inside, withSlashes, slash, quote]

/-- The backslashes that the writer has met are the ones that the reader still has to see. -/
theorem foldl_escaped (met : Nat) (argument : Text) :
    (escaped met argument ++ ['"']).foldl step (inside found read 0) =
      { found, current := some (argument.reverse ++ (List.replicate met '\\' ++ read)), closed := true } := by
  fun_induction escaped met argument generalizing read with
  | case1 met =>
    rw [List.foldl_append, foldl_inside_slashes, Nat.zero_add]
    exact step_inside_even
  | case2 met rest ih =>
    rw [ih, List.reverse_cons, List.append_assoc, List.replicate_succ]
    rfl
  | case3 met rest ih =>
    rw [List.append_assoc, List.foldl_append, foldl_inside_slashes, Nat.zero_add, List.cons_append, List.foldl_cons,
      step_inside_odd, ih, List.reverse_cons, List.append_assoc]
    rfl
  | case4 met c rest slash quote ih =>
    have other : (inside found read met).step c = inside found (c :: (List.replicate met '\\' ++ read)) 0 :=
      step_inside_other slash quote
    rw [List.append_assoc, List.foldl_append, foldl_inside_slashes, Nat.zero_add, List.cons_append, List.foldl_cons,
      other, ih, List.reverse_cons, List.append_assoc]
    rfl

/-- Outside of quotations, with so much read of an argument that has begun. -/
structure Open (r : Reading) (found : List Text) (read : Text) : Prop where
  found : r.found = found
  unquoted : r.quoted = false
  begun : r.current.isSome
  read : r.withSlashes r.slashes = read

/-- Outside of quotations, with so many arguments once a blank or the end is met. -/
structure Settled (r : Reading) (found : List Text) : Prop where
  unquoted : r.quoted = false
  finish : r.finish = { found }

theorem settled_found (found : List Text) : Settled { found } found := ⟨rfl, rfl⟩

theorem Open.settled (opened : Open r found read) : Settled r (read.reverse :: found) where
  unquoted := opened.unquoted
  finish := by
    obtain ⟨current, begun⟩ := Option.isSome_iff_exists.mp opened.begun
    rw [finish, begun, opened.read, opened.found]

/-- Without quotations a backslash stays what it is. -/
theorem step_plain (unquoted : r.quoted = false) (plain : isBlank c = false ∧ c ≠ '"') :
    Open (r.step c) r.found (c :: r.withSlashes r.slashes) := by
  by_cases slash : c = '\\'
  · subst slash
    exact ⟨rfl, unquoted, rfl, rfl⟩
  · have other : r.step c = { r with current := some (c :: r.withSlashes r.slashes), closed := false, slashes := 0 } := by
      simp [step, slash, plain]
    rw [other]
    exact ⟨rfl, unquoted, rfl, rfl⟩

/-- Characters that do not matter to the reader are read as they are. -/
theorem foldl_plain {word : Text} (plain : ∀ c ∈ word, isBlank c = false ∧ c ≠ '"') (opened : Open r found read) :
    Open (word.foldl step r) found (word.reverse ++ read) := by
  induction word generalizing r read with
  | nil => exact opened
  | cons c rest ih =>
    have next : Open (r.step c) r.found (c :: r.withSlashes r.slashes) :=
      step_plain opened.unquoted (plain c List.mem_cons_self)
    rw [opened.found, opened.read] at next
    rw [List.foldl_cons, List.reverse_cons, List.append_assoc]
    exact ih (fun d member => plain d (List.mem_cons_of_mem c member)) next

/-- In whatever form it stands, the argument is read. -/
theorem foldl_form {argument form : Text} (formed : ArgumentForm argument form) :
    Settled (form.foldl step { found }) (argument :: found) := by
  cases formed with
  | bare nonempty plain =>
    obtain ⟨c, rest, rfl⟩ := List.exists_cons_of_ne_nil nonempty
    have first : Open (step { found } c) found [c] := step_plain rfl (plain c List.mem_cons_self)
    have opened := foldl_plain (fun d member => plain d (List.mem_cons_of_mem c member)) first
    simpa using opened.settled
  | quoted =>
    have opening : step { found } '"' = inside found [] 0 := by simp [step, quote, withSlashes, inside]
    have opened : Open (('"' :: (escaped 0 argument ++ ['"'])).foldl step { found }) found argument.reverse := by
      rw [List.foldl_cons, opening, foldl_escaped]
      exact ⟨rfl, rfl, rfl, by simp [withSlashes]⟩
    simpa using opened.settled

/-! ### Reading the arguments -/

theorem step_blank (settled : Settled r found) (blank : isBlank c = true) : r.step c = { found } := by
  have slash : c ≠ '\\' := by
    rintro rfl
    cases blank
  have quote : c ≠ '"' := by
    rintro rfl
    cases blank
  simp [step, slash, quote, blank, settled.unquoted, settled.finish]

/-- Blanks between arguments end what has begun and begin nothing. -/
theorem foldl_blanks {blanks : Text} (separated : blanks ≠ []) (blank : ∀ c ∈ blanks, isBlank c = true)
    (settled : Settled r found) : blanks.foldl step r = { found } := by
  induction blanks generalizing r with
  | nil => exact absurd rfl separated
  | cons c rest ih =>
    have ended : r.step c = { found } := step_blank settled (blank c List.mem_cons_self)
    rw [List.foldl_cons, ended]
    cases rest with
    | nil => rfl
    | cons d others =>
      exact ih (List.cons_ne_nil d others) (fun e member => blank e (List.mem_cons_of_mem c member))
        (settled_found found)

/-- Arguments in some form each are read back, one after the other. -/
theorem foldl_joined {arguments : List Text} {rest : Text} (joined : Joined arguments rest)
    (settled : Settled r found) : (rest.foldl step r).finish = { found := arguments.reverse ++ found } := by
  induction joined generalizing r found with
  | nil => exact settled.finish
  | @cons argument form arguments rest blanks separated blank formed _ ih =>
    have one : Settled (form.foldl step { found }) (argument :: found) := foldl_form formed
    rw [List.foldl_append, List.foldl_append, foldl_blanks separated blank settled, ih one, List.reverse_cons,
      List.append_assoc]
    rfl

end Reading

theorem arguments_joined {arguments : List Text} {rest : Text} (joined : Joined arguments rest) :
    CommandLine.arguments rest = arguments := by
  rw [CommandLine.arguments, Reading.foldl_joined joined (Reading.settled_found [])]
  simp

/-! ### Reading the line -/

theorem Joined.head_blank {arguments : List Text} {rest : Text} (joined : Joined arguments rest) :
    ∀ c ∈ rest.head?, isBlank c = true := by
  cases joined with
  | nil => exact nofun
  | cons blanks separated blank =>
    obtain ⟨first, blanks, rfl⟩ := List.exists_cons_of_ne_nil separated
    rintro c ⟨⟩
    exact blank first List.mem_cons_self

/-- The name ends where its quote does, or at the blank before the first argument. -/
theorem program_append {program name : Text} (plain : '"' ∉ program) (form : ProgramForm program name) {rest : Text}
    (apart : ∀ c ∈ rest.head?, isBlank c = true) : CommandLine.program (name ++ rest) = (program, rest) := by
  cases form with
  | bare nonempty unbroken =>
    obtain ⟨c, others, rfl⟩ := List.exists_cons_of_ne_nil nonempty
    have start : c ≠ '"' := fun same => plain (same ▸ List.mem_cons_self)
    have kept : ∀ d ∈ c :: others, (!isBlank d) = true := fun d member => by simp [unbroken d member]
    have stop : rest.takeWhile (fun d => !isBlank d) = [] ∧ rest.dropWhile (fun d => !isBlank d) = rest := by
      cases rest with
      | nil => exact ⟨rfl, rfl⟩
      | cons d rest => simp [apart d rfl]
    have unquoted : CommandLine.program (c :: others ++ rest) =
        ((c :: others ++ rest).takeWhile (fun d => !isBlank d), (c :: others ++ rest).dropWhile fun d => !isBlank d) := by
      rw [List.cons_append, CommandLine.program]
      exact fun _ same => start (List.cons.inj same).1
    rw [unquoted, List.takeWhile_append_of_pos kept, List.dropWhile_append_of_pos kept, stop.1, stop.2, List.append_nil]
  | quoted =>
    have kept : ∀ d ∈ program, (d != '"') = true := fun d member => by simpa using ne_of_mem_of_not_mem member plain
    rw [List.cons_append, List.append_assoc, CommandLine.program, List.takeWhile_append_of_pos kept,
      List.dropWhile_append_of_pos kept]
    simp

/-- A line that was put together by the rules of quoting is cut into what it was put together from, and every program's
name without a quote can be put on a line with any arguments. -/
theorem split_written {program : Text} (plain : '"' ∉ program) (arguments : List Text) :
    (∃ line, Written program arguments line) ∧
      ∀ line, Written program arguments line → split line = program :: arguments := by
  refine ⟨exists_written program arguments, ?_⟩
  rintro line ⟨name, rest, form, joined, rfl⟩
  have nonempty : name ++ rest ≠ [] := by
    cases form with
    | bare nonempty => exact List.append_ne_nil_of_left_ne_nil nonempty rest
    | quoted => exact List.cons_ne_nil _ _
  rw [split, if_neg (by simpa using nonempty), program_append plain form joined.head_blank, arguments_joined joined]

/-- A program in a directory with a blank, an empty argument, one with a quote between backslashes, and a bare one. -/
theorem split_written_oddArguments :
    '"' ∉ "C:\\My Files\\a.exe".toList ∧
      split "\"C:\\My Files\\a.exe\" \"\"\t\"say \\\\\\\"hi\\\\\"  \\\\share\\".toList =
        ["C:\\My Files\\a.exe".toList, [], "say \\\"hi\\".toList, "\\\\share\\".toList] := by
  have bare : ArgumentForm "\\\\share\\".toList _ := .bare (by decide) (by decide)
  have last : Joined ["\\\\share\\".toList] _ := .cons "  ".toList (by decide) (by decide) bare .nil
  have said : Joined ["say \\\"hi\\".toList, "\\\\share\\".toList] _ :=
    .cons ['\t'] (by decide) (by decide) .quoted last
  have joined : Joined [[], "say \\\"hi\\".toList, "\\\\share\\".toList] _ :=
    .cons [' '] (by decide) (by decide) .quoted said
  have plain : '"' ∉ "C:\\My Files\\a.exe".toList := by decide
  exact ⟨plain, (split_written plain _).2 _ ⟨_, _, .quoted, joined, by decide⟩⟩

end HostProbe.Windows.CommandLine
