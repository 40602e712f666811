import HostProbe.Procfs.Blocks
import HostProbe.Proofs.Text.Lines
import HostProbe.Proofs.Text.Utf16
import HostProbe.Proofs.Text.Utf8
import Mathlib.Data.List.Induction
import Mathlib.Data.List.Sort
import Mathlib.Data.String.Basic

/-! Arguments and environments as they are kept in memory: entries that are each ended by a zero, in UTF-8 or UTF-16,
and the variables that such entries set. -/
namespace HostProbe

/-! ### Tables in order -/

namespace Table

variable {α : Type}

/-- The names are in order, each once. -/
def Ordered (table : Table α) : Prop := table.Pairwise fun a b => a.1 < b.1

theorem mem_of_mem_insert {name : String} {value : α} {table : Table α} {entry : String × α}
    (member : entry ∈ table.insert name value) : entry = (name, value) ∨ entry ∈ table := by
  fun_induction insert name value table with
  | case1 => exact .inl (List.mem_singleton.mp member)
  | case2 v rest =>
    exact (List.mem_cons.mp member).imp_right (List.mem_cons_of_mem _)
  | case3 k v rest other before => exact List.mem_cons.mp member
  | case4 k v rest other behind ih =>
    rcases List.mem_cons.mp member with rfl | later
    · exact .inr List.mem_cons_self
    · exact (ih later).imp_right (List.mem_cons_of_mem _)

/-- A value put into a table keeps its names in order. -/
theorem Ordered.insert {table : Table α} (ordered : table.Ordered) (name : String) (value : α) :
    (table.insert name value).Ordered := by
  fun_induction Table.insert name value table with
  | case1 => exact List.pairwise_singleton _ _
  | case2 v rest =>
    exact List.pairwise_cons.mpr (List.pairwise_cons.mp ordered)
  | case3 k v rest other before =>
    refine List.pairwise_cons.mpr ⟨List.forall_mem_cons.mpr ⟨before, fun entry member => ?_⟩, ordered⟩
    exact before.trans ((List.pairwise_cons.mp ordered).1 entry member)
  | case4 k v rest other behind ih =>
    obtain ⟨first, later⟩ := List.pairwise_cons.mp ordered
    refine List.pairwise_cons.mpr ⟨fun entry member => ?_, ih later⟩
    rcases mem_of_mem_insert member with rfl | old
    · exact lt_of_le_of_ne (not_lt.mp behind) (Ne.symm other)
    · exact first entry old

private theorem mem_cons_of_absent {name key : String} {value v : α} {rest : Table α}
    (absent : ∀ entry ∈ rest, entry.1 ≠ name) :
    (key, v) ∈ (name, value) :: rest ↔ key = name ∧ v = value ∨ key ≠ name ∧ (key, v) ∈ rest := by
  rw [List.mem_cons, Prod.mk.injEq]
  exact or_congr_right ⟨fun later => ⟨absent _ later, later⟩, And.right⟩

/-- A value that is set takes the place of the name's old one. -/
theorem mem_insert {table : Table α} (ordered : table.Ordered) {name key : String} {value v : α} :
    (key, v) ∈ table.insert name value ↔ key = name ∧ v = value ∨ key ≠ name ∧ (key, v) ∈ table := by
  fun_induction Table.insert name value table with
  | case1 => exact mem_cons_of_absent nofun
  | case2 old rest =>
    have absent : ∀ entry ∈ rest, entry.1 ≠ name := fun entry member =>
      ((List.pairwise_cons.mp ordered).1 entry member).ne'
    rw [mem_cons_of_absent absent, List.mem_cons, Prod.mk.injEq]
    refine or_congr_right (and_congr_right fun other => ?_)
    exact (or_iff_right fun same => other same.1).symm
  | case3 k old rest other before =>
    refine mem_cons_of_absent (List.forall_mem_cons.mpr ⟨before.ne', fun entry member => ?_⟩)
    exact (before.trans ((List.pairwise_cons.mp ordered).1 entry member)).ne'
  | case4 k old rest other behind ih =>
    rw [List.mem_cons, ih (List.pairwise_cons.mp ordered).2, List.mem_cons, Prod.mk.injEq]
    constructor
    · rintro (⟨rfl, rfl⟩ | set | ⟨different, later⟩)
      · exact .inr ⟨Ne.symm other, .inl ⟨rfl, rfl⟩⟩
      · exact .inl set
      · exact .inr ⟨different, .inr later⟩
    · rintro (set | ⟨different, first | later⟩)
      · exact .inr (.inl set)
      · exact .inl first
      · exact .inr (.inr ⟨different, later⟩)

/-- Of the pairs with the key, the last has the value. -/
def LastOf (pairs : List (String × α)) (key : String) (value : α) : Prop :=
  ∃ before after, pairs = before ++ (key, value) :: after ∧ ∀ later ∈ after, later.1 ≠ key

theorem lastOf_append_singleton {pairs : List (String × α)} {name key : String} {value v : α} :
    LastOf (pairs ++ [(name, value)]) key v ↔ key = name ∧ v = value ∨ key ≠ name ∧ LastOf pairs key v := by
  constructor
  · rintro ⟨before, after, split, other⟩
    rcases List.eq_nil_or_concat after with rfl | ⟨inner, last, rfl⟩
    · obtain ⟨-, same⟩ := List.append_inj' split rfl
      cases same
      exact .inl ⟨rfl, rfl⟩
    · rw [List.concat_eq_append, ← List.cons_append, ← List.append_assoc] at split
      obtain ⟨rfl, same⟩ := List.append_inj' split rfl
      cases same
      rw [List.concat_eq_append, List.forall_mem_append] at other
      exact .inr ⟨(other.2 _ List.mem_cons_self).symm, before, inner, rfl, other.1⟩
  · rintro (⟨rfl, rfl⟩ | ⟨different, before, after, rfl, other⟩)
    · exact ⟨pairs, [], rfl, nofun⟩
    · refine ⟨before, after ++ [(name, value)], by rw [List.append_assoc, List.cons_append], ?_⟩
      exact List.forall_mem_append.mpr ⟨other, List.forall_mem_singleton.mpr different.symm⟩

theorem ofList_append_singleton (pairs : List (String × α)) (name : String) (value : α) :
    ofList (pairs ++ [(name, value)]) = (ofList pairs).insert name value := by
  rw [ofList, List.foldl_append]
  rfl

theorem ordered_ofList (pairs : List (String × α)) : (ofList pairs).Ordered := by
  induction pairs using List.reverseRecOn with
  | nil => exact .nil
  | append_singleton pairs pair ih =>
    rw [ofList_append_singleton]
    exact ih.insert _ _

theorem mem_ofList {pairs : List (String × α)} {key : String} {value : α} :
    (key, value) ∈ ofList pairs ↔ LastOf pairs key value := by
  induction pairs using List.reverseRecOn with
  | nil => simp [ofList, LastOf]
  | append_singleton pairs pair ih =>
    rw [ofList_append_singleton, mem_insert (ordered_ofList pairs), ih, lastOf_append_singleton]

/-- Where no key is set twice, the last pair of a key is the only one. -/
theorem lastOf_iff_mem {pairs : List (String × α)} (distinct : (pairs.map (·.1)).Nodup) {key : String} {value : α} :
    LastOf pairs key value ↔ (key, value) ∈ pairs := by
  constructor
  · rintro ⟨before, after, rfl, -⟩
    exact List.mem_append_right _ List.mem_cons_self
  · intro member
    obtain ⟨before, after, rfl⟩ := List.append_of_mem member
    refine ⟨before, after, rfl, fun later among same => ?_⟩
    rw [List.map_append, List.map_cons] at distinct
    exact (List.nodup_cons.mp distinct.of_append_right).1 (List.mem_map.mpr ⟨later, among, same⟩)

/-- Names that are each set once may be set in any order. -/
theorem ofList_eq_of_perm {pairs others : List (String × α)} (same : pairs.Perm others)
    (distinct : (pairs.map (·.1)).Nodup) : ofList pairs = ofList others := by
  have irrefl : Std.Irrefl fun a b : String × α => a.1 < b.1 := ⟨fun a => lt_irrefl a.1⟩
  refine List.Pairwise.eq_of_mem_iff (ordered_ofList pairs) (ordered_ofList others) fun ⟨key, value⟩ => ?_
  rw [mem_ofList, mem_ofList, lastOf_iff_mem distinct, lastOf_iff_mem ((same.map _).nodup_iff.mp distinct),
    same.mem_iff]

theorem contains_eq_false_iff {table : Table α} {name : String} :
    table.contains name = false ↔ ∀ entry ∈ table, entry.1 ≠ name := by
  simp [contains, get?]

end Table

/-! ### Variables -/

namespace Environment

/-- The entry sets the key, which may begin with the separator and has none behind its first character. -/
def Sets (entry key value : String) : Prop :=
  ∃ c rest, key.toList = c :: rest ∧ '=' ∉ rest ∧ entry.toList = key.toList ++ '=' :: value.toList

/-- Of the entries that set the key, the last sets it to the value. -/
def LastSets (entries : List String) (key value : String) : Prop :=
  ∃ before entry after, entries = before ++ entry :: after ∧ Sets entry key value ∧
    ∀ later ∈ after, ∀ other, ¬Sets later key other

/-- An entry is split at the first separator behind its first character. -/
theorem splitEntry_eq_some_iff {entry key value : Text} : splitEntry entry = some (key, value) ↔
    ∃ c rest, key = c :: rest ∧ '=' ∉ rest ∧ entry = key ++ '=' :: value := by
  cases entry with
  | nil => simp [splitEntry]
  | cons c behind =>
    simp only [splitEntry, Option.map_eq_some_iff, Prod.exists, Prod.mk.injEq, Text.splitOnce_eq_some_iff]
    constructor
    · rintro ⟨rest, _, ⟨absent, rfl⟩, rfl, rfl⟩
      exact ⟨c, rest, rfl, absent, rfl⟩
    · rintro ⟨_, rest, rfl, absent, split⟩
      obtain ⟨rfl, rfl⟩ := List.cons.inj split
      exact ⟨rest, value, ⟨absent, rfl⟩, rfl, rfl⟩

def pair? (entry : String) : Option (String × String) :=
  (splitEntry entry.toList).map fun (k, v) => (String.ofList k, String.ofList v)

theorem pair?_eq_some_iff {entry key value : String} : pair? entry = some (key, value) ↔ Sets entry key value := by
  have strings (k v : Text) : String.ofList k = key ∧ String.ofList v = value ↔ k = key.toList ∧ v = value.toList := by
    constructor
    · rintro ⟨rfl, rfl⟩
      exact ⟨String.toList_ofList.symm, String.toList_ofList.symm⟩
    · rintro ⟨rfl, rfl⟩
      exact ⟨String.ofList_toList, String.ofList_toList⟩
  simp only [pair?, Option.map_eq_some_iff, Prod.exists, Prod.mk.injEq, strings]
  constructor
  · rintro ⟨_, _, split, rfl, rfl⟩
    exact splitEntry_eq_some_iff.mp split
  · intro sets
    exact ⟨_, _, splitEntry_eq_some_iff.mpr sets, rfl, rfl⟩

theorem lastSets_append_singleton {entries : List String} {entry key value : String} :
    LastSets (entries ++ [entry]) key value ↔
      Sets entry key value ∨ (∀ other, ¬Sets entry key other) ∧ LastSets entries key value :=
  @lastGives_append_singleton _ _ (fun entry value => Sets entry key value) entries entry value

/-- Pairs are read from the entries that set something, so the last of them that sets the key decides. -/
theorem lastOf_pairs {entries : List String} {key value : String} :
    Table.LastOf (entries.filterMap pair?) key value ↔ LastSets entries key value := by
  induction entries using List.reverseRecOn with
  | nil => simp [Table.LastOf, LastSets]
  | append_singleton entries entry ih =>
    rw [List.filterMap_append, lastSets_append_singleton, ← ih]
    simp only [← pair?_eq_some_iff]
    cases read : pair? entry with
    | none => simp [read]
    | some pair =>
      rw [List.filterMap_cons_some read, List.filterMap_nil, Table.lastOf_append_singleton]
      simp only [Option.some.injEq, Prod.ext_iff]
      refine or_congr (and_congr eq_comm eq_comm) (and_congr_left fun _ => ?_)
      exact ⟨fun other _ same => other same.1.symm, fun other same => other pair.2 ⟨same.symm, rfl⟩⟩

theorem ordered_ofEntries (entries : List String) : (ofEntries entries).Ordered := Table.ordered_ofList _

theorem mem_ofEntries {entries : List String} {key value : String} :
    (key, value) ∈ ofEntries entries ↔ LastSets entries key value := Table.mem_ofList.trans lastOf_pairs

example : ofEntries ["=C:=C:\\dir", "A=1", "solo", "A=x=y "] = [("=C:", "C:\\dir"), ("A", "x=y ")] := by decide

end Environment

/-! ### Blocks of bytes -/

def block (entries : List String) : Bytes := entries.flatMap fun e => Utf8.encode e.toList ++ [0]

namespace Bytes

theorem flatMap_eq_intercalate {parts : List Bytes} (some : parts ≠ []) :
    (parts.flatMap fun part => part ++ [0]) = [0].intercalate parts ++ [0] := by
  induction parts with
  | nil => exact absurd rfl some
  | cons part later ih =>
    cases later with
    | nil => simp
    | cons next rest =>
      rw [List.flatMap_cons, ih (List.cons_ne_nil next rest), List.intercalate_cons_cons]
      simp only [List.append_assoc]

/-- Parts without zeros are found again, but for a single empty one: its zero is taken for the block's end. -/
theorem splitNul_flatMap {parts : List Bytes} (free : ∀ part ∈ parts, 0 ∉ part) :
    splitNul (parts.flatMap fun part => part ++ [0]) = if parts = [[]] then [] else parts := by
  by_cases none : parts = []
  · rw [none]
    rfl
  have found : ([0].intercalate parts).splitOn 0 = parts := List.splitOn_intercalate 0 free none
  have empty : ([0].intercalate parts).isEmpty ↔ parts = [[]] := by
    rw [List.isEmpty_iff]
    constructor
    · intro nothing
      rw [← found, nothing]
      rfl
    · rintro rfl
      rfl
  rw [flatMap_eq_intercalate none, splitNul, List.getLast?_concat, if_pos rfl, List.dropLast_concat, found]
  simp only [empty]

end Bytes

section bytes

variable {entries : List String} (free : ∀ e ∈ entries, '\x00' ∉ e.toList)

include free

/-- A block of entries is split into them again; the block of one empty entry is read as none. -/
theorem splitNul_block :
    Bytes.splitNul (block entries) = if entries = [""] then [] else entries.map fun e => Utf8.encode e.toList := by
  have parts : block entries = (entries.map fun e => Utf8.encode e.toList).flatMap fun part => part ++ [0] := by
    rw [List.flatMap_map]
    rfl
  have zeroless : ∀ part ∈ entries.map fun e => Utf8.encode e.toList, 0 ∉ part :=
    List.forall_mem_map.mpr fun e member => Utf8.zero_notMem_encode (free e member)
  have single : (entries.map fun e => Utf8.encode e.toList) = [[]] ↔ entries = [""] := by
    rw [List.map_eq_singleton_iff]
    simp
  rw [parts, Bytes.splitNul_flatMap zeroless]
  simp only [single]

theorem splitNulStrings_block :
    Bytes.splitNulStrings (block entries) = if entries = [""] then [] else entries := by
  rw [Bytes.splitNulStrings, splitNul_block free]
  split
  · rfl
  · simp [Function.comp_def]

end bytes

theorem getLast?_block {entries : List String} (nonempty : entries ≠ []) : (block entries).getLast? = some 0 := by
  obtain ⟨inner, last, rfl⟩ := (List.eq_nil_or_concat entries).resolve_left nonempty
  simp [block, List.getLast?_append]

/-- No argument is cut at its spaces, since a block ends with a zero byte. -/
theorem splitCommandLine_block (entries : List String) :
    Procfs.splitCommandLine (block entries) = Bytes.splitNulStrings (block entries) := by
  rw [Procfs.splitCommandLine, Bytes.splitNulStrings]
  split
  case h_1 only single =>
    have nonempty : entries ≠ [] := by
      rintro rfl
      cases single
    simp [getLast?_block nonempty, single, Utf8.toString]
  case h_2 => rfl

/-! ### Blocks of units -/

/-- The entries in UTF-16, each ended by a zero unit, and an empty one behind them. -/
def wideBlock (entries : List String) : Bytes :=
  Utf16.bytes ((entries.flatMap fun e => Utf16.encode e.toList ++ [0]) ++ [0])

namespace Windows

theorem splitTexts_cons {units : List UInt16} (free : 0 ∉ units) (nonempty : units ≠ []) (rest : List UInt16) :
    splitTexts (units ++ 0 :: rest) = Utf16.toString units :: splitTexts rest := by
  have pieces : (units ++ 0 :: rest).splitOn 0 = units :: rest.splitOn 0 :=
    List.splitOnP_append_cons_of_forall_mem (fun u member => by simpa using ne_of_mem_of_not_mem member free)
      0 (by decide) rest
  rw [splitTexts, pieces, List.takeWhile_cons_of_pos (by simpa using nonempty), List.map_cons, splitTexts]

theorem splitTexts_zero (rest : List UInt16) : splitTexts (0 :: rest) = [] := by
  have pieces : ((0 : UInt16) :: rest).splitOn 0 = [] :: rest.splitOn 0 := by
    rw [List.splitOn_eq_splitOnP, List.splitOnP_cons_eq_if_modifyHead, if_pos (by decide), List.splitOn_eq_splitOnP]
  rw [splitTexts, pieces, List.takeWhile_cons_of_neg (by decide), List.map_nil]

/-- Entries are found up to the empty one, whatever stands behind it. -/
theorem splitEnvironment_wideBlock {entries : List String} (free : ∀ e ∈ entries, '\x00' ∉ e.toList)
    (nonempty : "" ∉ entries) (rest : Bytes) : splitEnvironment (wideBlock entries ++ rest) = entries := by
  rw [splitEnvironment, wideBlock, unitsOfBytes_bytes, List.append_assoc, List.singleton_append]
  induction entries with
  | nil => exact splitTexts_zero _
  | cons e entries ih =>
    obtain ⟨first, later⟩ := List.forall_mem_cons.mp free
    rw [List.mem_cons, not_or] at nonempty
    have units : Utf16.encode e.toList ≠ [] := by
      rw [ne_eq, Utf16.encode_eq_nil_iff, String.toList_eq_nil_iff]
      exact Ne.symm nonempty.1
    rw [List.flatMap_cons, List.append_assoc, List.append_assoc, List.singleton_append,
      splitTexts_cons (Utf16.zero_notMem_encode first) units, ih later nonempty.2, Utf16.toString_encode,
      String.ofList_toList]

end Windows

/-! ### Round trips -/

/-- Entries without zeros are found in their blocks again. One empty argument alone is not told from none; an empty
variable ends the block in UTF-16, and what is behind it does not matter. Of the entries that set a variable the last
counts, whatever its value, and entries that set none are passed over. -/
theorem blocks_split {entries : List String} (free : ∀ e ∈ entries, '\x00' ∉ e.toList) :
    (entries ≠ [""] → Bytes.splitNulStrings (block entries) = entries) ∧
      Procfs.splitCommandLine (block entries) = Bytes.splitNulStrings (block entries) ∧
      Environment.ofEntries (Bytes.splitNulStrings (block entries)) = Environment.ofEntries entries ∧
      (∀ others : List String, (Environment.ofEntries others).Ordered ∧ ∀ key value,
        (key, value) ∈ Environment.ofEntries others ↔ Environment.LastSets others key value) ∧
      ("" ∉ entries → ∀ rest, Windows.splitEnvironment (wideBlock entries ++ rest) = entries) := by
  have parts := splitNulStrings_block free
  refine ⟨fun other => ?_, splitCommandLine_block entries, ?_, fun others => ?_,
    Windows.splitEnvironment_wideBlock free⟩
  · rw [parts, if_neg other]
  · rw [parts]
    split
    case isTrue single =>
      rw [single]
      rfl
    case isFalse => rfl
  · exact ⟨Environment.ordered_ofEntries others, fun _ _ => Environment.mem_ofEntries⟩

/-- A drive's directory, a variable set twice, a value with separators, and an entry that sets nothing. -/
def shellEntries : List String := ["=C:=C:\\dir", "étui=1", "A=x=y ", "solo", "étui=2"]

/-- The entries of a shell, through a block and through the environment. -/
theorem blocks_split_shellEntries :
    (∀ e ∈ shellEntries, '\x00' ∉ e.toList) ∧ shellEntries ≠ [""] ∧ "" ∉ shellEntries ∧
      (shellEntries ≠ [""] → Bytes.splitNulStrings (block shellEntries) = shellEntries) ∧
      Procfs.splitCommandLine (block shellEntries) = Bytes.splitNulStrings (block shellEntries) ∧
      Environment.ofEntries (Bytes.splitNulStrings (block shellEntries)) = Environment.ofEntries shellEntries ∧
      (∀ others : List String, (Environment.ofEntries others).Ordered ∧ ∀ key value,
        (key, value) ∈ Environment.ofEntries others ↔ Environment.LastSets others key value) ∧
      ("" ∉ shellEntries → ∀ rest, Windows.splitEnvironment (wideBlock shellEntries ++ rest) = shellEntries) := by
  have free : ∀ e ∈ shellEntries, '\x00' ∉ e.toList := by decide
  exact ⟨free, by decide, by decide, blocks_split free⟩

end HostProbe
