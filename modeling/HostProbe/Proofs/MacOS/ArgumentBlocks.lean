import HostProbe.MacOS.Records
import HostProbe.Proofs.Blocks
import HostProbe.Proofs.Overflow.Slices

/-! The block that tells a program's arguments and environment. Zero bytes end the path in front of them, fill up the
space behind it, and stand between the strings, of which only the count in front tells how many are arguments. -/
namespace HostProbe.MacOS

open Bytes (HoldsAt)

/-! ### Entries -/

namespace Arguments

/-- So many of the entries are arguments, or all if there are fewer; variables follow them up to an empty entry. -/
def taken (count : Int) (entries : List Bytes) : Arguments where
  command := (entries.take count.toNat).map Utf8.toString
  environment := ((entries.drop count.toNat).takeWhile fun e => !e.isEmpty).map Utf8.toString

def stringsOf (block : Bytes) : Bytes := ((block.drop 4).dropWhile (· != 0)).dropWhile (· == 0)

private theorem intAt_front (block : Bytes) :
    Bytes.intAt ((block.drop 0).take 4) 0 4 = Bytes.intAt block 0 4 := by
  rw [Bytes.intAt, Bytes.intAt, Bytes.natAt, Bytes.natAt, List.drop_zero, List.drop_zero, List.take_take]
  rfl

/-- A block is read by its count and the strings behind its path. -/
theorem ofBlock?_eq (block : Bytes) : ofBlock? block = if 4 ≤ block.length ∧ stringsOf block ≠ [] then
    some (taken (Bytes.intAt block 0 4) ((stringsOf block).splitOn 0)) else none := by
  rw [ofBlock?, Bytes.slice?_eq]
  by_cases whole : 4 ≤ block.length
  · rw [if_pos (by omega)]
    simp only [Option.bind_eq_bind, Option.bind_some, intAt_front, whole, true_and]
    by_cases none : stringsOf block = []
    · rw [if_neg (not_not_intro none)]
      exact if_pos (List.isEmpty_iff.mpr none)
    · rw [if_pos none]
      exact if_neg (mt List.isEmpty_iff.mp none)
  · rw [if_neg (by omega), if_neg fun both => whole both.1]
    rfl

end Arguments

/-- The block holds a count, a path that one or more zero bytes follow, and then entries, with a zero byte between any
two of them. The first entry is not empty. -/
def HoldsEntries (block : Bytes) (count : Int32) (entries : List Bytes) : Prop :=
  ∃ path zeros, 0 ∉ path ∧
    block = Bytes.ofInt32 count ++ (path ++ (List.replicate (zeros + 1) 0 ++ [0].intercalate entries)) ∧
    (∀ e ∈ entries, 0 ∉ e) ∧ ∃ first others, entries = first :: others ∧ first ≠ []

/-- The strings begin with the first byte that is not zero behind the path and the zero bytes that follow it. -/
theorem stringsOf_eq_cons_iff {block : Bytes} {b : UInt8} {tail : Bytes} :
    Arguments.stringsOf block = b :: tail ↔ ∃ path zeros, 0 ∉ path ∧ b ≠ 0 ∧
      block.drop 4 = path ++ (List.replicate (zeros + 1) 0 ++ b :: tail) := by
  constructor
  · intro strings
    rw [Arguments.stringsOf] at strings
    have begins := List.head?_dropWhile_not (· == 0) ((block.drop 4).dropWhile (· != 0))
    have ends := List.head?_dropWhile_not (· != 0) (block.drop 4)
    rw [strings] at begins
    have whole : (block.drop 4).takeWhile (· != 0) ++ (block.drop 4).dropWhile (· != 0) = block.drop 4 :=
      List.takeWhile_append_dropWhile
    cases padded : (block.drop 4).dropWhile (· != 0) with
    | nil =>
      rw [padded] at strings
      cases strings
    | cons zero padding =>
      rw [padded] at strings ends whole
      obtain rfl : zero = 0 := by simpa using ends
      have zeros : padding.takeWhile (· == 0) = List.replicate (padding.takeWhile (· == 0)).length 0 :=
        List.eq_replicate_of_mem fun c member => by simpa using List.mem_takeWhile_imp member
      rw [List.dropWhile_cons_of_pos (by decide)] at strings
      refine ⟨(block.drop 4).takeWhile (· != 0), (padding.takeWhile (· == 0)).length, ?_, by simpa using begins, ?_⟩
      · exact fun member => absurd (List.mem_takeWhile_imp member) (by decide)
      · rw [List.replicate_succ, ← zeros, ← strings, List.cons_append, List.takeWhile_append_dropWhile, whole]
  · rintro ⟨path, zeros, unbroken, nonzero, behind⟩
    have whole := Bytes.forall_bne_zero unbroken
    have padding : ∀ c ∈ List.replicate (zeros + 1) (0 : UInt8), (c == 0) = true := fun c member =>
      beq_iff_eq.mpr (List.eq_of_mem_replicate member)
    rw [Arguments.stringsOf, behind, List.dropWhile_append_of_pos whole, List.replicate_succ, List.cons_append,
      List.dropWhile_cons_of_neg (by decide), ← List.cons_append, ← List.replicate_succ,
      List.dropWhile_append_of_pos padding, List.dropWhile_cons_of_neg (by simpa using nonzero)]

/-- What a block with entries is read as is decided by the count and by them. -/
theorem HoldsEntries.ofBlock? {block : Bytes} {count : Int32} {entries : List Bytes}
    (holds : HoldsEntries block count entries) :
    Arguments.ofBlock? block = some (Arguments.taken count.toInt entries) := by
  obtain ⟨path, zeros, unbroken, made, free, first, others, rfl, nonempty⟩ := holds
  obtain ⟨b, tail, rfl⟩ := List.exists_cons_of_ne_nil nonempty
  have nonzero : b ≠ 0 := ne_of_mem_of_not_mem List.mem_cons_self (free _ List.mem_cons_self)
  have again := List.splitOn_intercalate 0 free (List.cons_ne_nil (b :: tail) others)
  rw [List.intercalate_cons_cons_left] at made again
  have held : HoldsAt block 0 (Bytes.ofInt32 count) := made ▸ List.prefix_append _ _
  have room := held.length_le (List.ne_nil_of_length_pos (by rw [Bytes.length_ofInt32]; decide))
  have behind : block.drop 4 = path ++ (List.replicate (zeros + 1) 0 ++ b :: [0].intercalate (tail :: others)) := by
    rw [made, List.drop_left' (Bytes.length_ofInt32 count)]
  have strings := stringsOf_eq_cons_iff.mpr ⟨path, zeros, unbroken, nonzero, behind⟩
  rw [Bytes.length_ofInt32] at room
  rw [Arguments.ofBlock?_eq, if_pos ⟨by omega, strings ▸ List.cons_ne_nil _ _⟩, held.intAt_ofInt32, strings, again]

/-- Every block that is long enough and has a string holds entries. -/
theorem exists_holdsEntries {block : Bytes} (whole : 4 ≤ block.length) (some : Arguments.stringsOf block ≠ []) :
    ∃ count entries, HoldsEntries block count entries := by
  obtain ⟨count, front⟩ := Bytes.exists_ofInt32 (List.length_take_of_le whole)
  obtain ⟨b, tail, strings⟩ := List.exists_cons_of_ne_nil some
  obtain ⟨path, zeros, unbroken, nonzero, behind⟩ := stringsOf_eq_cons_iff.mp strings
  obtain ⟨first, others, split⟩ := List.exists_cons_of_ne_nil (List.splitOn_ne_nil 0 tail)
  have entries : (b :: tail).splitOn 0 = (b :: first) :: others := by
    rw [List.splitOn_cons_eq_if_modifyHead, if_neg (by simpa using nonzero), split]
    rfl
  refine ⟨count, (b :: tail).splitOn 0, path, zeros, unbroken, ?_, fun e member => Text.notMem_of_mem_splitOn member,
    b :: first, others, entries, List.cons_ne_nil b first⟩
  rw [List.intercalate_splitOn, ← behind, front, List.take_append_drop]

/-- Arguments are read exactly where there are entries, and are as many of them as the count tells. -/
theorem ofBlock?_eq_some_iff {block : Bytes} {arguments : Arguments} : Arguments.ofBlock? block = some arguments ↔
    ∃ count entries, HoldsEntries block count entries ∧ arguments = Arguments.taken count.toInt entries := by
  constructor
  · intro read
    have told := Option.isSome_of_eq_some read
    rw [Arguments.ofBlock?_eq, Option.isSome_ite] at told
    obtain ⟨count, entries, holds⟩ := exists_holdsEntries told.1 told.2
    exact ⟨count, entries, holds, Option.some.inj (read.symm.trans holds.ofBlock?)⟩
  · rintro ⟨count, entries, holds, rfl⟩
    exact holds.ofBlock?

/-! ### Layout -/

/-- What follows the last string: nothing, its zero byte, or an empty string and anything behind it. -/
inductive Ending : Bytes → Prop
  | cut : Ending []
  | last : Ending [0]
  | empty (rest : Bytes) : Ending (0 :: 0 :: rest)

/-- Behind the pieces of what stands before an ending there is none or an empty one, and whatever else. -/
theorem Ending.splitOn {ending : Bytes} (ends : Ending ending) (bytes : Bytes) :
    ∃ behind, (behind = [] ∨ ∃ others, behind = [] :: others) ∧
      (bytes ++ ending).splitOn 0 = bytes.splitOn 0 ++ behind := by
  cases ends with
  | cut => exact ⟨[], .inl rfl, by rw [List.append_nil, List.append_nil]⟩
  | last => exact ⟨[[]], .inr ⟨[], rfl⟩, List.splitOn_append_cons_self bytes []⟩
  | empty rest =>
    refine ⟨[] :: rest.splitOn 0, .inr ⟨_, rfl⟩, ?_⟩
    rw [List.splitOn_append_cons_self, List.splitOn_cons_eq_if_modifyHead, if_pos (by decide)]

/-- A path, arguments and variables, as a program is started with them. Only later arguments may be empty. -/
structure Startup where
  path : Bytes
  padding : Nat
  command : List String
  environment : List String
  ending : Bytes
  unbroken : 0 ∉ path
  padded : 0 < padding
  begun : ∃ first others, command = first :: others ∧ first ≠ ""
  counted : command.length < 2 ^ 31
  filled : "" ∉ environment
  free : ∀ s ∈ command ++ environment, '\x00' ∉ s.toList
  ends : Ending ending

namespace Startup

variable (s : Startup)

def strings : List Bytes := (s.command ++ s.environment).map fun e => Utf8.encode e.toList

def block : Bytes :=
  Bytes.ofInt32 (Int32.ofNat s.command.length) ++ s.path ++ List.replicate s.padding 0 ++
    [0].intercalate s.strings ++ s.ending

theorem notMem_strings {e : Bytes} (member : e ∈ s.strings) : 0 ∉ e := by
  obtain ⟨string, within, rfl⟩ := List.mem_map.mp member
  exact Utf8.zero_notMem_encode (s.free string within)

theorem strings_begin : ∃ first others, s.strings = first :: others ∧ first ≠ [] := by
  obtain ⟨first, others, split, nonempty⟩ := s.begun
  refine ⟨Utf8.encode first.toList, (others ++ s.environment).map fun e => Utf8.encode e.toList, ?_, ?_⟩
  · rw [strings, split, List.cons_append, List.map_cons]
  · rwa [ne_eq, Utf8.encode_eq_nil_iff, String.toList_eq_nil_iff]

/-- The kernel's block of a program holds the strings that it was started with. -/
theorem holdsEntries_block : ∃ behind, (behind = [] ∨ ∃ others, behind = [] :: others) ∧
    HoldsEntries s.block (Int32.ofNat s.command.length) (s.strings ++ behind) := by
  obtain ⟨first, others, begins, nonempty⟩ := s.strings_begin
  obtain ⟨behind, none, split⟩ := s.ends.splitOn ([0].intercalate s.strings)
  rw [List.splitOn_intercalate 0 (fun e member => s.notMem_strings member) (begins ▸ List.cons_ne_nil first others)]
    at split
  refine ⟨behind, none, s.path, s.padding - 1, s.unbroken, ?_, fun e member => ?_, first, others ++ behind, ?_,
    nonempty⟩
  · rw [← split, List.intercalate_splitOn, Nat.sub_add_cancel s.padded, block]
    simp only [List.append_assoc]
  · exact Text.notMem_of_mem_splitOn (split ▸ member)
  · rw [begins, List.cons_append]

/-- The count tells the arguments from the variables, which end with the strings. -/
theorem taken_strings {behind : List Bytes} (none : behind = [] ∨ ∃ others, behind = [] :: others) :
    Arguments.taken s.command.length (s.strings ++ behind) = ⟨s.command, s.environment⟩ := by
  have texts (list : List String) : (list.map fun e => Utf8.encode e.toList).map Utf8.toString = list := by
    simp [Function.comp_def]
  have filled : ∀ e ∈ s.environment.map fun e => Utf8.encode e.toList, (!e.isEmpty) = true := by
    intro e member
    obtain ⟨string, within, rfl⟩ := List.mem_map.mp member
    have nonempty : string ≠ "" := ne_of_mem_of_not_mem within s.filled
    simpa using nonempty
  have stop : behind.takeWhile (fun e => !e.isEmpty) = [] := by
    rcases none with rfl | ⟨others, rfl⟩
    · rfl
    · rfl
  have count : ((s.command.length : Int)).toNat = (s.command.map fun e => Utf8.encode e.toList).length := by
    rw [List.length_map, Int.toNat_natCast]
  rw [Arguments.taken, count, strings, List.map_append, List.append_assoc, List.take_left, List.drop_left,
    List.takeWhile_append_of_pos filled, stop, List.append_nil, texts, texts]

theorem ofBlock?_block : Arguments.ofBlock? s.block = some ⟨s.command, s.environment⟩ := by
  obtain ⟨behind, none, holds⟩ := s.holdsEntries_block
  have count : (Int32.ofNat s.command.length).toInt = s.command.length := Int32.toInt_ofNat_of_lt s.counted
  rw [holds.ofBlock?, count, s.taken_strings none]

end Startup

/-! ### The reader in machine words -/

namespace Arguments

def loadBlock? (block : Bytes) : Outcome (Option Arguments) :=
  match Bytes.slice? block 0 4 with
  | none => return none
  | some field => do
    let rest ← Bytes.between block 4 block.length
    match rest.findIdx? (· == 0) with
    | none => return none
    | some stop =>
      match (← Bytes.between rest stop rest.length).findIdx? (· != 0) with
      | none => return none
      | some zeros =>
        let strings ← Bytes.between rest (← Word.add stop zeros) rest.length
        return some (taken (Bytes.intAt field 0 4) (strings.splitOn 0))

private theorem bne_eq : (fun b : UInt8 => b != 0) = fun b => !(b == 0) := rfl

private theorem beq_eq : (fun b : UInt8 => b == 0) = fun b => !(b != 0) := by
  funext b
  rw [bne, Bool.not_not]

/-- Reading a block by positions leaves no byte out and never leaves the block. -/
theorem loadBlock?_eq {block : Bytes} (word : block.length < Word.span) : loadBlock? block = .ok (ofBlock? block) := by
  rw [loadBlock?, ofBlock?_eq, Bytes.slice?_eq]
  by_cases whole : 4 ≤ block.length
  · rw [if_pos (by omega)]
    simp only [Outcome.bind_of_ok (Bytes.between_length whole), intAt_front, whole, true_and]
    generalize split : block.drop 4 = rest
    have strings : stringsOf block = (rest.dropWhile (· != 0)).dropWhile (· == 0) := split ▸ rfl
    rcases Bytes.findIdx?_cases rest (· == 0) with ⟨none, empty⟩ | ⟨stop, found, within, behind⟩
    · have nothing : stringsOf block = [] := by
        rw [strings, bne_eq, empty]
        rfl
      rw [none, if_neg (not_not_intro nothing)]
      rfl
    · have padding := Bytes.between_length (Nat.le_of_lt within)
      rw [bne_eq, behind] at strings
      simp only [found, Outcome.bind_of_ok padding]
      rcases Bytes.findIdx?_cases (rest.drop stop) (· != 0) with ⟨none, empty⟩ | ⟨zeros, some, below, behind⟩
      · have nothing : stringsOf block = [] := by
          rw [strings, beq_eq, empty]
        rw [none, if_neg (not_not_intro nothing)]
        rfl
      · rw [beq_eq, behind, List.drop_drop] at strings
        rw [List.length_drop] at below
        have room : rest.length ≤ block.length := by
          rw [← split, List.length_drop]
          exact Nat.sub_le _ _
        have something : stringsOf block ≠ [] := by
          rw [strings, ne_eq, List.drop_eq_nil_iff]
          omega
        have start : Word.add stop zeros = .ok (stop + zeros) := Word.add_of_lt (by omega)
        have cut : Bytes.between rest (stop + zeros) rest.length = .ok (stringsOf block) :=
          strings ▸ Bytes.between_length (by omega)
        simp only [some, Outcome.bind_of_ok start, Outcome.bind_of_ok cut, if_pos something]
        rfl
  · rw [if_neg (by omega), if_neg fun both => whole both.1]
    rfl

end Arguments

/-- A block gives back the arguments and the variables that it was made of, whatever the path and the padding in front
of them. Any block gives something just if it has a count, a path, zero bytes behind it, and entries: these are shared
out by the count, which may be negative or more than there are. No read leaves a block whose length is a word. -/
theorem argumentBlock_read (block : Bytes) :
    (∀ s : Startup, block = s.block → Arguments.ofBlock? block = some ⟨s.command, s.environment⟩) ∧
      (∀ arguments, Arguments.ofBlock? block = some arguments ↔
        ∃ count entries, HoldsEntries block count entries ∧ arguments = Arguments.taken count.toInt entries) ∧
      (block.length < Word.span → Arguments.loadBlock? block = .ok (Arguments.ofBlock? block)) := by
  refine ⟨fun s made => ?_, fun _ => ofBlock?_eq_some_iff, Arguments.loadBlock?_eq⟩
  rw [made]
  exact s.ofBlock?_block

def shellStartup : Startup where
  path := Utf8.encode "/bin/sh".toList
  padding := 5
  command := ["sh", "", "-c"]
  environment := ["HOME=/", "TOKEN=é"]
  ending := [0, 0, 1, 2]
  unbroken := by decide
  padded := by decide
  begun := ⟨"sh", ["", "-c"], rfl, by decide⟩
  counted := by decide
  filled := by decide
  free := by decide
  ends := .empty [1, 2]

/-- The shell's block gives its arguments and not its environment among them. -/
theorem argumentBlock_read_shellStartup :
    Arguments.ofBlock? shellStartup.block = some ⟨["sh", "", "-c"], ["HOME=/", "TOKEN=é"]⟩ ∧
      shellStartup.block.length < Word.span ∧
      Arguments.loadBlock? shellStartup.block = .ok (Arguments.ofBlock? shellStartup.block) := by
  have short : shellStartup.block.length < Word.span := by decide
  obtain ⟨reads, -, loads⟩ := argumentBlock_read shellStartup.block
  exact ⟨reads shellStartup rfl, short, loads short⟩

end HostProbe.MacOS
