import HostProbe.Procfs.Cpuinfo
import HostProbe.Proofs.Text.Decimal
import HostProbe.Proofs.Text.Lines
import Mathlib.Data.Set.Card

/-! Cores among the blocks of lines that describe processors. Each block tells of one processor, and no two blocks tell
of one together. -/
namespace HostProbe.Procfs

/-! ### Blocks -/

def IsBlankLine (line : Text) : Prop := ∀ c ∈ line, isBlank c

instance (line : Text) : Decidable (IsBlankLine line) := inferInstanceAs (Decidable (∀ c ∈ line, isBlank c = true))

/-- The lines are those of the blocks in order. A block has lines and no blank one; blank lines stand between any two
blocks, and may stand before the first and behind the last. -/
inductive Divides : List Text → List (List Text) → Prop
  | nil : Divides [] []
  | blank {line : Text} {lines : List Text} {blocks : List (List Text)} (blank : IsBlankLine line)
      (behind : Divides lines blocks) : Divides (line :: lines) blocks
  | block {block lines : List Text} {blocks : List (List Text)} (nonempty : block ≠ [])
      (filled : ∀ line ∈ block, ¬IsBlankLine line) (ended : ∀ line ∈ lines.head?, IsBlankLine line)
      (behind : Divides lines blocks) : Divides (block ++ lines) (block :: blocks)

/-- The line gives the key the value. Blanks around either do not matter. -/
def Gives (line key value : Text) : Prop :=
  ∃ before after, ':' ∉ before ∧ line = before ++ ':' :: after ∧ Text.trim before = key ∧ Text.trim after = value

/-- The last value that the block gives the key is the number, which has 32 bits. -/
def NumbersLast (block : List Text) (key : String) (n : Nat) : Prop :=
  ∃ value, LastGives (fun line => Gives line key.toList) block value ∧ Integer.SpellsNat value n ∧ n ≤ 0xffffffff

def Names (block : List Text) (core : Nat × Nat) : Prop :=
  NumbersLast block "physical id" core.1 ∧ NumbersLast block "core id" core.2

/-- Any lines can be divided into blocks. -/
theorem exists_divides (lines : List Text) : ∃ blocks, Divides lines blocks := by
  induction lines with
  | nil => exact ⟨[], .nil⟩
  | cons line lines ih =>
    obtain ⟨blocks, divides⟩ := ih
    by_cases blank : IsBlankLine line
    · exact ⟨blocks, .blank blank divides⟩
    -- The line is a block of its own, or the first of the block that comes next.
    have filled : ∀ l ∈ [line], ¬IsBlankLine l := List.forall_mem_singleton.mpr blank
    cases divides with
    | nil => exact ⟨[[line]], .block (List.cons_ne_nil line []) filled nofun .nil⟩
    | @blank next lines _ blank' behind =>
      have ended : ∀ l ∈ (next :: lines).head?, IsBlankLine l := by simpa using blank'
      exact ⟨[line] :: blocks, .block (List.cons_ne_nil line []) filled ended (.blank blank' behind)⟩
    | @block block lines blocks nonempty filled' ended behind =>
      have longer : ∀ l ∈ line :: block, ¬IsBlankLine l := List.forall_mem_cons.mpr ⟨blank, filled'⟩
      exact ⟨(line :: block) :: blocks, .block (List.cons_ne_nil line block) longer ended behind⟩

/-! ### Lines -/

def assignment? (line : Text) : Option (Text × Text) :=
  (line.trim.splitOnce ':').map (Prod.map Text.trim Text.trim)

theorem assignment?_eq_some_iff {line key value : Text} : assignment? line = some (key, value) ↔ Gives line key value := by
  have told {before after : Text} (absent : ':' ∉ before) :
      assignment? (before ++ ':' :: after) = some (before.trim, after.trim) := by
    have front : ':' ∉ before.trimStart := fun member => absent ((List.dropWhile_sublist _).subset member)
    rw [assignment?, Text.trim_append_cons before (by decide), Text.splitOnce_cons front, Option.map_some,
      Prod.map_apply, Text.trim_trimStart, Text.trim_trimEnd]
  constructor
  · intro read
    by_cases colon : ':' ∈ line
    · obtain ⟨before, after, rfl, absent⟩ := List.eq_append_cons_of_mem colon
      rw [told absent] at read
      obtain ⟨rfl, rfl⟩ := Prod.mk.inj (Option.some.inj read)
      exact ⟨before, after, absent, rfl, rfl, rfl⟩
    · rw [assignment?, Text.splitOnce_of_notMem fun member => colon (Text.mem_of_mem_trim member)] at read
      cases read
  · rintro ⟨before, after, absent, rfl, rfl, rfl⟩
    exact told absent

/-- What is known of a key behind a line: its number there, or else what was known before. -/
def known (line : Text) (key : String) (before : Option Nat) : Option Nat :=
  match assignment? line with
  | some (k, value) => if k = key.toList then Integer.word32? value else before
  | none => before

/-- A line makes known what it gives the key; where it gives nothing, what was known stays. -/
theorem known_eq_some_iff {line : Text} {key : String} {before : Option Nat} {n : Nat} :
    known line key before = some n ↔
      (∃ value, Gives line key.toList value ∧ Integer.SpellsNat value n ∧ n ≤ 0xffffffff) ∨
        (∀ value, ¬Gives line key.toList value) ∧ before = some n := by
  simp only [← assignment?_eq_some_iff, ← Integer.word32?_eq_some_iff, known]
  cases read : assignment? line with
  | none => simp
  | some pair =>
    obtain ⟨k, value⟩ := pair
    by_cases same : k = key.toList
    · simp [same]
    · simp [same]

/-- A line with text takes over what it gives of the package and of the core. -/
theorem readLine_of_filled (c : CoreCount) {line : Text} (filled : ¬IsBlankLine line) :
    c.readLine line = ⟨c.cores, known line "physical id" c.package, known line "core id" c.core⟩ := by
  have solid : ¬line.trim.isEmpty = true := by rwa [List.isEmpty_iff, Text.trim_eq_nil_iff]
  simp only [CoreCount.readLine, if_neg solid, known, assignment?]
  cases line.trim.splitOnce ':' with
  | none => rfl
  | some pair =>
    obtain ⟨key, value⟩ := pair
    simp only [Option.map_some, Prod.map_apply]
    by_cases package : key.trim = "physical id".toList
    · rw [if_pos package, if_pos package, package]
      rfl
    · rw [if_neg package, if_neg package]
      split
      · rfl
      · rfl

/-! ### Counting -/

theorem not_numbersLast_nil (key : String) (n : Nat) : ¬NumbersLast [] key n := fun ⟨_, last, _⟩ =>
  not_lastGives_nil last

theorem numbersLast_append_singleton {block : List Text} {line : Text} {key : String} {n : Nat} :
    NumbersLast (block ++ [line]) key n ↔
      (∃ value, Gives line key.toList value ∧ Integer.SpellsNat value n ∧ n ≤ 0xffffffff) ∨
        (∀ value, ¬Gives line key.toList value) ∧ NumbersLast block key n := by
  simp only [NumbersLast, lastGives_append_singleton, or_and_right, and_assoc, exists_or, exists_and_left]

/-- Behind the lines of a block nothing is counted yet, and its last numbers are known. -/
theorem foldl_block {block : List Text} (filled : ∀ line ∈ block, ¬IsBlankLine line) (cores : List (Nat × Nat)) :
    ∃ package core, block.foldl CoreCount.readLine ⟨cores, none, none⟩ = ⟨cores, package, core⟩ ∧
      (∀ n, package = some n ↔ NumbersLast block "physical id" n) ∧
      ∀ n, core = some n ↔ NumbersLast block "core id" n := by
  induction block using List.reverseRecOn with
  | nil =>
    exact ⟨none, none, rfl, fun n => iff_of_false nofun (not_numbersLast_nil _ n),
      fun n => iff_of_false nofun (not_numbersLast_nil _ n)⟩
  | append_singleton block line ih =>
    rw [List.forall_mem_append, List.forall_mem_singleton] at filled
    obtain ⟨package, core, read, packageKnown, coreKnown⟩ := ih filled.1
    refine ⟨known line "physical id" package, known line "core id" core, ?_, fun n => ?_, fun n => ?_⟩
    · rw [List.foldl_append, read, List.foldl_cons, List.foldl_nil, readLine_of_filled _ filled.2]
    · rw [known_eq_some_iff, numbersLast_append_singleton, packageKnown]
    · rw [known_eq_some_iff, numbersLast_append_singleton, coreKnown]

def CoreCount.close (c : CoreCount) : CoreCount := c.readLine []

namespace CoreCount

theorem readLine_of_blank (c : CoreCount) {line : Text} (blank : IsBlankLine line) : c.readLine line = c.close := by
  have empty : line.trim.isEmpty = true := List.isEmpty_iff.mpr (Text.trim_eq_nil_iff.mpr blank)
  simp only [close, readLine, if_pos empty]
  rfl

theorem close_of_unknown (cores : List (Nat × Nat)) : close ⟨cores, none, none⟩ = ⟨cores, none, none⟩ := rfl

/-- The numbers are forgotten whether or not they name a core, which is counted once. -/
theorem close_eq {cores : List (Nat × Nat)} (nodup : cores.Nodup) (package core : Option Nat) :
    ∃ counted, close ⟨cores, package, core⟩ = ⟨counted, none, none⟩ ∧ counted.Nodup ∧
      ∀ pair : Nat × Nat, pair ∈ counted ↔ pair ∈ cores ∨ package = some pair.1 ∧ core = some pair.2 := by
  match package, core with
  | none, _ => exact ⟨cores, rfl, nodup, by simp⟩
  | some _, none => exact ⟨cores, rfl, nodup, by simp⟩
  | some p, some c =>
    have named (pair : Nat × Nat) : some p = some pair.1 ∧ some c = some pair.2 ↔ pair = (p, c) := by
      rw [Option.some_inj, Option.some_inj, Prod.ext_iff, eq_comm, eq_comm (a := c)]
    refine ⟨if cores.contains (p, c) then cores else (p, c) :: cores, rfl, ?_⟩
    simp only [named, List.contains_iff_mem]
    split
    case isTrue seen =>
      refine ⟨nodup, fun pair => (or_iff_left_of_imp ?_).symm⟩
      rintro rfl
      exact seen
    case isFalse new => exact ⟨List.nodup_cons.mpr ⟨new, nodup⟩, fun pair => List.mem_cons.trans or_comm⟩

end CoreCount

/-- Between blocks no number is known, so each adds the core that it names itself, if there is one. -/
theorem foldl_divided {lines : List Text} {blocks : List (List Text)} (divides : Divides lines blocks)
    {cores : List (Nat × Nat)} (nodup : cores.Nodup) :
    ∃ counted, (lines ++ [[]]).foldl CoreCount.readLine ⟨cores, none, none⟩ = ⟨counted, none, none⟩ ∧ counted.Nodup ∧
      ∀ core, core ∈ counted ↔ core ∈ cores ∨ ∃ block ∈ blocks, Names block core := by
  induction divides generalizing cores with
  | nil => exact ⟨cores, rfl, nodup, by simp⟩
  | blank blank behind ih =>
    obtain ⟨counted, run, distinct, members⟩ := ih nodup
    refine ⟨counted, ?_, distinct, members⟩
    rw [List.cons_append, List.foldl_cons, CoreCount.readLine_of_blank _ blank, CoreCount.close_of_unknown, run]
  | @block block lines blocks nonempty filled ended behind ih =>
    obtain ⟨package, core, read, packageKnown, coreKnown⟩ := foldl_block filled cores
    obtain ⟨more, closed, distinctMore, named⟩ := CoreCount.close_eq nodup package core
    obtain ⟨counted, run, distinct, members⟩ := ih distinctMore
    -- The line behind the block is blank also where the block is the last.
    obtain ⟨first, others, next, blank⟩ : ∃ first others, lines ++ [[]] = first :: others ∧ IsBlankLine first := by
      cases lines with
      | nil => exact ⟨[], [], rfl, nofun⟩
      | cons first others => exact ⟨first, others ++ [[]], rfl, ended first rfl⟩
    refine ⟨counted, ?_, distinct, fun pair => ?_⟩
    · rw [next, List.foldl_cons, CoreCount.readLine_of_blank _ blank, CoreCount.close_of_unknown] at run
      rw [List.append_assoc, List.foldl_append, read, next, List.foldl_cons, CoreCount.readLine_of_blank _ blank, closed,
        run]
    · rw [members, named, packageKnown, coreKnown, List.exists_mem_cons_iff, or_assoc]
      rfl

/-- The number of cores is that of the pairs of package and core which the blocks name, each by its last values alone. -/
theorem cores_counted (text : Text) :
    (∃ blocks, Divides text.lines blocks) ∧
      ∀ blocks, Divides text.lines blocks →
        coresFromCpuinfo text = {core | ∃ block ∈ blocks, Names block core}.ncard := by
  refine ⟨exists_divides text.lines, fun blocks divides => ?_⟩
  obtain ⟨counted, run, distinct, members⟩ := foldl_divided divides List.nodup_nil
  have same : {core | ∃ block ∈ blocks, Names block core} = (counted.toFinset : Set (Nat × Nat)) := by
    ext core
    simp [members]
  have start : ({} : CoreCount) = ⟨[], none, none⟩ := rfl
  rw [coresFromCpuinfo, start, run, same, Set.ncard_coe_finset, List.toFinset_card_of_nodup distinct]

/-- A core; a package without a core that can be read, and a core without a package, of which none is counted; and one
whose core is given twice. -/
def unevenBlocks : List (List Text) :=
  [["physical id\t: 0".toList, "core id\t: 0".toList], ["physical id:0".toList, "core id:x".toList],
    ["core id:1".toList], ["physical id:1".toList, "core id:4".toList, "core id:+0".toList]]

def unevenProcessors : Text :=
  "\nphysical id\t: 0\ncore id\t: 0\n\nphysical id:0\ncore id:x\n \n\n".toList ++
    "core id:1\n\nphysical id:1\ncore id:4\ncore id:+0".toList

/-- Of the uneven blocks, two name a core. -/
theorem cores_counted_unevenProcessors :
    Divides unevenProcessors.lines unevenBlocks ∧
      coresFromCpuinfo unevenProcessors = {core | ∃ block ∈ unevenBlocks, Names block core}.ncard ∧
      coresFromCpuinfo unevenProcessors = 2 := by
  have lines : unevenProcessors.lines = [] :: (unevenBlocks[0] ++ [] :: (unevenBlocks[1] ++ " ".toList :: [] ::
      (unevenBlocks[2] ++ [] :: (unevenBlocks[3] ++ [])))) := by decide +kernel
  have divides : Divides unevenProcessors.lines unevenBlocks := by
    rw [lines]
    refine .blank (by decide) (.block (by decide) (by decide) (by decide) ?_)
    refine .blank (by decide) (.block (by decide) (by decide) (by decide) ?_)
    refine .blank (by decide) (.blank (by decide) (.block (by decide) (by decide) (by decide) ?_))
    exact .blank (by decide) (.block (by decide) (by decide) (by decide) .nil)
  exact ⟨divides, (cores_counted unevenProcessors).2 unevenBlocks divides, by decide +kernel⟩

end HostProbe.Procfs
