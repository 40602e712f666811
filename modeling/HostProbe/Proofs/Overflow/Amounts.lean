import HostProbe.Linux.Probe
import HostProbe.Procfs.Disks
import HostProbe.Procfs.Meminfo
import HostProbe.Proofs.Overflow.Words
import HostProbe.Proofs.Procfs.ProcessStats

/-! Amounts that files of the process file system state. The texts bound no number, while amounts are counted in words:
reading gives up just where an amount, a conversion of units or a sum of amounts would leave the word. -/
namespace HostProbe

namespace Procfs

/-! ### Keys and amounts -/

def statedAmount? (line : Text) : Option (Text × Nat) := do
  let (key, rest) ← line.splitOnce ':'
  match Text.words rest with
  | [] => none
  | value :: unit =>
    (Integer.word? value).map fun n => (Text.trim key, n * if unit.head? = some "kB".toList then 1024 else 1)

def amounts (text : Text) : List (Text × Nat) := text.lines.filterMap statedAmount?

/-- Keys and amounts are those that the line states, if the amount is a word. -/
theorem keyedAmount_eq (line : Text) : keyedAmount line = match statedAmount? line with
    | none => .ok none
    | some (key, n) => do return some (key, ← Word.check n) := by
  unfold keyedAmount statedAmount?
  cases line.splitOnce ':' with
  | none => rfl
  | some pair =>
    obtain ⟨key, rest⟩ := pair
    simp only [Option.bind_eq_bind, Option.bind_some]
    cases Text.words rest with
    | nil => rfl
    | cons value unit =>
      dsimp only
      cases Integer.word? value <;> rfl

/-- Reading a line gives up or gives the amount in it. -/
theorem keyedAmount_cases (line : Text) :
    (∀ amount ∈ statedAmount? line, amount.2 < Word.span) ∧ keyedAmount line = .ok (statedAmount? line) ∨
      (∃ amount ∈ statedAmount? line, Word.span ≤ amount.2) ∧ keyedAmount line = .error .abort := by
  rw [keyedAmount_eq]
  cases statedAmount? line with
  | none => exact .inl ⟨nofun, rfl⟩
  | some amount =>
    simp only [Option.mem_some_iff, forall_eq', exists_eq_left']
    by_cases fits : amount.2 < Word.span
    · have checked : Word.check amount.2 = .ok amount.2 := if_pos fits
      simp only [checked]
      exact .inl ⟨fits, rfl⟩
    · simp only [Word.check_eq_abort_iff.mpr (Nat.not_lt.mp fits)]
      exact .inr ⟨Nat.not_lt.mp fits, rfl⟩

/-- All amounts are read, or the first that is too large aborts. -/
theorem mapM_keyedAmount (lines : List Text) :
    (∀ amount ∈ lines.filterMap statedAmount?, amount.2 < Word.span) ∧
        lines.mapM keyedAmount = .ok (lines.map statedAmount?) ∨
      (∃ amount ∈ lines.filterMap statedAmount?, Word.span ≤ amount.2) ∧ lines.mapM keyedAmount = .error .abort := by
  induction lines with
  | nil => exact .inl ⟨nofun, rfl⟩
  | cons line lines ih =>
    have member {amount : Text × Nat} : amount ∈ (line :: lines).filterMap statedAmount? ↔
        amount ∈ statedAmount? line ∨ amount ∈ lines.filterMap statedAmount? := by
      simp only [List.mem_filterMap, List.mem_cons, or_and_right, exists_or, exists_eq_left, Option.mem_def]
    simp only [member]
    rw [List.mapM_cons]
    rcases keyedAmount_cases line with ⟨fits, read⟩ | ⟨⟨amount, stated, excess⟩, aborted⟩
    case inr =>
      rw [aborted]
      exact .inr ⟨⟨amount, .inl stated, excess⟩, rfl⟩
    rw [read]
    rcases ih with ⟨others, read⟩ | ⟨⟨amount, among, excess⟩, aborted⟩
    · rw [read]
      exact .inl ⟨fun amount => Or.rec (fits amount) (others amount), rfl⟩
    · rw [aborted]
      exact .inr ⟨⟨amount, .inr among, excess⟩, rfl⟩

/-- Some amount of a text is too large for a word. -/
def StatesExcess (text : Text) : Prop := ∃ amount ∈ amounts text, Word.span ≤ amount.2

/-- Reading amounts gives up or gives them all. -/
theorem keyedAmounts_cases (text : Text) : ¬StatesExcess text ∧ keyedAmounts text = .ok (amounts text) ∨
    StatesExcess text ∧ keyedAmounts text = .error .abort := by
  rcases mapM_keyedAmount text.lines with ⟨fits, read⟩ | ⟨excess, aborted⟩
  · refine .inl ⟨fun ⟨amount, stated, excess⟩ => absurd (fits amount stated) (Nat.not_lt.mpr excess), ?_⟩
    rw [keyedAmounts, read]
    exact congrArg Except.ok (List.filterMap_map.trans rfl)
  · refine .inr ⟨excess, ?_⟩
    rw [keyedAmounts, aborted]
    rfl

theorem bind_keyedAmounts_eq_abort_iff {α : Type} {text : Text} {rest : List (Text × Nat) → Outcome α} :
    (keyedAmounts text >>= rest) = .error .abort ↔ StatesExcess text ∨ rest (amounts text) = .error .abort := by
  rcases keyedAmounts_cases text with ⟨fits, read⟩ | ⟨excess, aborted⟩
  · rw [read, or_iff_right fits]
    rfl
  · rw [aborted]
    exact ⟨fun _ => .inl excess, fun _ => rfl⟩

theorem parseIo_eq_abort_iff {text : Text} : parseIo text = .error .abort ↔ StatesExcess text := by
  have absent {pairs : List (Text × Nat)} (key : String) :
      Outcome.ofOption (.parse "/proc/<pid>/io" s!"missing {key}") (lastOf? pairs key) ≠ .error .abort := by
    cases lastOf? pairs key <;> exact nofun
  rw [parseIo, bind_keyedAmounts_eq_abort_iff]
  refine or_iff_left fun aborted => ?_
  simp only [Outcome.bind_eq_abort_iff, absent, false_or] at aborted
  obtain ⟨_, _, _, _, _, _, _, _, ended⟩ := aborted
  cases ended

/-! ### Memory of the system -/

/-- The amounts of `meminfo`, however large. -/
def statedMeminfo (text : Text) : Table Nat := Table.ofList ((amounts text).map fun (k, v) => (String.ofList k, v))

theorem bind_parseMeminfo_eq_abort_iff {α : Type} {text : Text} {rest : Table Nat → Outcome α} :
    (parseMeminfo text >>= rest) = .error .abort ↔ StatesExcess text ∨ rest (statedMeminfo text) = .error .abort := by
  rw [parseMeminfo, bind_assoc, bind_keyedAmounts_eq_abort_iff]
  rfl

/-- Memory that is free or could be freed. -/
def unusedMemory (meminfo : Table Nat) : Nat :=
  (meminfo.get? "MemFree").getD 0 + ((meminfo.get? "Cached").getD 0 + (meminfo.get? "SReclaimable").getD 0) +
    (meminfo.get? "Buffers").getD 0

/-- An amount of `meminfo` is too large for a word, or those of unused memory are together, next to the total. -/
def MemoryExcess (text : Text) : Prop :=
  StatesExcess text ∨ ((statedMeminfo text).get? "MemTotal").isSome ∧ Word.span ≤ unusedMemory (statedMeminfo text)

/-- Memory in use is told unless what is unused leaves the word. -/
theorem virtualMemory_eq_abort_iff {meminfo : Table Nat} : virtualMemory meminfo = .error .abort ↔
    (meminfo.get? "MemTotal").isSome ∧ Word.span ≤ unusedMemory meminfo := by
  unfold virtualMemory unusedMemory
  dsimp only
  cases meminfo.get? "MemTotal" with
  | none => exact ⟨nofun, nofun⟩
  | some total =>
    simp only [Word.bind_add_eq_abort_iff, Outcome.ok_ne_abort, Option.isSome_some, true_and, or_false]
    omega

/-- Pages moved to or from swap space are counted in bytes. -/
def SwapsExcess (pageSize : Nat) (counts : Table Nat) : Prop :=
  Word.span ≤ (counts.get? "pswpin").getD 0 * pageSize ∨ Word.span ≤ (counts.get? "pswpout").getD 0 * pageSize

/-- Swap space is told unless pages moved to or from it leave the word. -/
theorem swapMemory_eq_abort_iff {meminfo : Table Nat} {vmstat : Option (Table Nat)} {pageSize : Nat} :
    swapMemory meminfo vmstat pageSize = .error .abort ↔
      (meminfo.get? "SwapTotal").isSome ∧ ∃ counts ∈ vmstat, SwapsExcess pageSize counts := by
  unfold swapMemory SwapsExcess
  dsimp only
  cases meminfo.get? "SwapTotal" with
  | none => exact ⟨nofun, nofun⟩
  | some total =>
    cases vmstat with
    | none => exact ⟨nofun, nofun⟩
    | some counts =>
      simp only [Word.bind_mul_eq_abort_iff, Outcome.ok_ne_abort, or_false, Option.isSome_some, true_and,
        Option.mem_some_iff, exists_eq_left']

/-! ### Disks -/

/-- Columns of a line of so many, in the order in which they are read, with whether each counts sectors. -/
def diskColumns (count : Nat) : List (Nat × Bool) :=
  if 14 ≤ count then [(3, false), (5, true), (6, false), (7, false), (9, true), (10, false), (12, false)]
  else if count = 7 then [(3, false), (4, true), (5, false), (6, true)]
  else []

/-- Some column counts more sectors than a word has room for in bytes, and those before it are numbers. -/
def CountsExcess (fields : List Text) : List (Nat × Bool) → Prop
  | [] => False
  | (i, sectors) :: later => ∃ n, Integer.word? (fields.getD i []) = some n ∧
      (sectors ∧ Word.span ≤ n * sectorSize ∨ CountsExcess fields later)

/-- A line of a disk aborts exactly where a column of sectors is too large in bytes. -/
theorem parseDiskLine_eq_abort_iff {line : Text} : parseDiskLine line = .error .abort ↔
    CountsExcess line.words (diskColumns line.words.length) := by
  unfold parseDiskLine
  extract_lets fields
  split
  case h_1 unnamed =>
    have short : fields.length ≤ 2 := List.getElem?_eq_none_iff.mp unnamed
    have none : diskColumns fields.length = [] := by
      rw [diskColumns, if_neg (by omega), if_neg (by omega)]
    rw [none]
    exact ⟨nofun, False.elim⟩
  case h_2 name named =>
    extract_lets fail number sectors
    have readNumber {α : Type} (i : Nat) (rest : Nat → Outcome α) : (number i >>= rest) = .error .abort ↔
        ∃ n, Integer.word? (fields.getD i []) = some n ∧ rest n = .error .abort := by
      simp only [number]
      cases Integer.word? (fields.getD i []) with
      | none => exact ⟨nofun, fun ⟨_, absent, _⟩ => nomatch absent⟩
      | some n => exact ⟨fun later => ⟨n, rfl, later⟩, fun ⟨_, same, later⟩ => Option.some.inj same ▸ later⟩
    have readSectors {α : Type} (i : Nat) (rest : Nat → Outcome α) : (sectors i >>= rest) = .error .abort ↔
        ∃ n, Integer.word? (fields.getD i []) = some n ∧
          (Word.span ≤ n * sectorSize ∨ rest (n * sectorSize) = .error .abort) := by
      simp only [sectors, bind_assoc, readNumber, Word.bind_mul_eq_abort_iff]
    split
    case isTrue long =>
      rw [diskColumns, if_pos long]
      simp only [readNumber, readSectors, Outcome.ok_ne_abort, CountsExcess, true_and, Bool.false_eq_true, false_and,
        false_or, fields]
    split
    case isTrue short seven =>
      rw [diskColumns, if_neg short, if_pos seven]
      simp only [readNumber, readSectors, Outcome.ok_ne_abort, CountsExcess, true_and, Bool.false_eq_true, false_and,
        false_or, fields]
    case isFalse short other =>
      rw [diskColumns, if_neg short, if_neg other]
      exact ⟨nofun, False.elim⟩

/-- The first line that cannot be read counts too many sectors. -/
def DisksExcess (text : Text) : Prop :=
  ∃ before line after, text.lines = before ++ line :: after ∧ (∀ l ∈ before, ∃ disk, parseDiskLine l = .ok disk) ∧
    CountsExcess line.words (diskColumns line.words.length)

theorem parseDiskstats_eq_abort_iff {text : Text} : parseDiskstats text = .error .abort ↔ DisksExcess text := by
  rw [parseDiskstats, Outcome.bind_pure_eq_abort_iff, Outcome.mapM_eq_abort_iff]
  simp only [parseDiskLine_eq_abort_iff, DisksExcess]

/-! ### Mappings of a process -/

/-- A line with an amount, as its first word ends with a colon; all others with words begin a mapping. -/
def IsField (line : Text) : Prop := ∃ first rest, Text.words line = first :: rest ∧ first.getLast? = some ':'

/-- The amount in a field is too large for a word. -/
def FieldExcess (line : Text) : Prop := IsField line ∧ ∃ amount ∈ statedAmount? line, Word.span ≤ amount.2

/-- A line below a mapping gives up, or leaves some mapping. -/
theorem readSmapsLine_cases {maps : List MemoryMap} (begun : maps ≠ []) (line : Text) :
    FieldExcess line ∧ readSmapsLine maps line = .error .abort ∨
      ¬FieldExcess line ∧ ∃ next, next ≠ [] ∧ readSmapsLine maps line = .ok next := by
  obtain ⟨current, older, rfl⟩ := List.exists_cons_of_ne_nil begun
  by_cases field : IsField line
  · obtain ⟨first, rest, words, colon⟩ := id field
    have read : readSmapsLine (current :: older) line = do
        match ← keyedAmount line with
        | none => return current :: older
        | some (key, bytes) => return setMappingAmount current (String.ofList key) bytes :: older := by
      rw [readSmapsLine, words]
      exact if_neg (not_not_intro colon)
    rcases keyedAmount_cases line with ⟨fits, keyed⟩ | ⟨excess, aborted⟩
    case inr =>
      rw [read, aborted]
      exact .inl ⟨⟨field, excess⟩, rfl⟩
    · rw [read, keyed]
      refine .inr ⟨fun ⟨_, amount, stated, excess⟩ => absurd (fits amount stated) (Nat.not_lt.mpr excess), ?_⟩
      cases statedAmount? line with
      | none => exact ⟨_, List.cons_ne_nil _ _, rfl⟩
      | some amount => exact ⟨_, List.cons_ne_nil _ _, rfl⟩
  · refine .inr ⟨fun large => field large.1, ?_⟩
    cases words : Text.words line with
    | nil => exact ⟨_, List.cons_ne_nil current older, by simp only [readSmapsLine, words]⟩
    | cons first rest =>
      have other : first.getLast? ≠ some ':' := fun colon => field ⟨first, rest, words, colon⟩
      refine ⟨mappingOfHeader line first :: current :: older, List.cons_ne_nil _ _, ?_⟩
      simp only [readSmapsLine, words, if_pos other]

theorem foldlM_readSmapsLine_eq_abort_iff {maps : List MemoryMap} (begun : maps ≠ []) {lines : List Text} :
    lines.foldlM readSmapsLine maps = .error .abort ↔ ∃ line ∈ lines, FieldExcess line := by
  induction lines generalizing maps with
  | nil => exact ⟨nofun, nofun⟩
  | cons line lines ih =>
    rw [List.foldlM_cons]
    simp only [List.mem_cons, or_and_right, exists_or, exists_eq_left]
    rcases readSmapsLine_cases begun line with ⟨excess, aborted⟩ | ⟨fits, next, some, read⟩
    · rw [aborted]
      exact ⟨fun _ => .inl excess, fun _ => rfl⟩
    · rw [read, or_iff_right fits]
      exact ih some

/-- The first line with words begins a mapping. -/
def BeginsMapping (lines : List Text) : Prop :=
  ∃ first ∈ lines.find? fun line => !(Text.words line).isEmpty, ¬IsField first

/-- An amount below a mapping is too large for a word. -/
def MappingsExcess (text : Text) : Prop := BeginsMapping text.lines ∧ ∃ line ∈ text.lines, FieldExcess line

/-- Mappings abort exactly where an amount below one of them is too large. -/
theorem parseSmaps_eq_abort_iff {text : Text} : parseSmaps text = .error .abort ↔ MappingsExcess text := by
  unfold MappingsExcess
  rw [parseSmaps, Outcome.bind_pure_eq_abort_iff]
  induction text.lines with
  | nil => exact ⟨nofun, fun ⟨⟨_, absent, _⟩, _⟩ => nomatch absent⟩
  | cons line lines ih =>
    rw [List.foldlM_cons]
    simp only [List.mem_cons, or_and_right, exists_or, exists_eq_left]
    cases words : Text.words line with
    | nil =>
      have blank : readSmapsLine [] line = .ok [] := by simp only [readSmapsLine, words]
      have skipped : BeginsMapping (line :: lines) ↔ BeginsMapping lines := by simp [BeginsMapping, words]
      have none : ¬FieldExcess line := fun ⟨⟨_, _, split, _⟩, _⟩ => nomatch words.symm.trans split
      rw [blank, skipped, or_iff_right none]
      exact ih
    | cons first rest =>
      have found : BeginsMapping (line :: lines) ↔ ¬IsField line := by simp [BeginsMapping, words]
      rw [found]
      by_cases colon : first.getLast? = some ':'
      · have field : IsField line := ⟨first, rest, words, colon⟩
        have early : readSmapsLine [] line =
            Outcome.report (.parse "/proc/<pid>/smaps" "field before first mapping") := by
          simp only [readSmapsLine, words, colon, ne_eq, not_true_eq_false, if_false]
        rw [early]
        exact ⟨nofun, fun begins => absurd field begins.1⟩
      · have header : ¬IsField line := fun ⟨_, _, split, colon'⟩ =>
          colon ((List.cons.inj (words.symm.trans split)).1 ▸ colon')
        have begun : readSmapsLine [] line = .ok [mappingOfHeader line first] := by
          simp only [readSmapsLine, words, if_pos colon]
        rw [begun, and_iff_right header, or_iff_right fun excess => header excess.1]
        exact foldlM_readSmapsLine_eq_abort_iff (List.cons_ne_nil _ _)

/-! ### Memory of a process -/

/-- The highest resident size is too large for a word in bytes. -/
def PeakExcess (status : Text) : Prop :=
  ∃ value n, lastOf? (parseStatus status) "VmHWM" = some value ∧
    (Text.words value).head?.bind Integer.word? = some n ∧ Word.span ≤ n * 1024

/-- What follows, where it does not depend on the size, decides if the size fits. -/
theorem bind_statusAmount_eq_abort_iff {α : Type} {status : Text} {rest : Option Nat → Outcome α} {excess : Prop}
    (decides : ∀ peak, rest peak = .error .abort ↔ excess) :
    (statusAmount (parseStatus status) "VmHWM" >>= rest) = .error .abort ↔ PeakExcess status ∨ excess := by
  unfold statusAmount PeakExcess
  cases lastOf? (parseStatus status) "VmHWM" with
  | none => exact (decides none).trans (or_iff_right fun ⟨_, _, absent, _⟩ => nomatch absent).symm
  | some value =>
    simp only [Option.bind_some, Option.some.injEq, exists_and_left, exists_eq_left']
    cases (Text.words value).head?.bind Integer.word? with
    | none => exact (decides none).trans (or_iff_right fun ⟨_, absent, _⟩ => nomatch absent).symm
    | some n =>
      simp only [bind_assoc, pure_bind, Word.bind_mul_eq_abort_iff, decides, Option.some.injEq, exists_eq_left']

theorem Statm.parse_ne_abort (text : Text) : Statm.parse text ≠ .error .abort := by
  unfold parse
  extract_lets fail
  rw [ne_eq, Outcome.bind_eq_abort_iff, Outcome.mapM_eq_abort_iff]
  rintro (⟨_, field, _, _, _, aborted⟩ | ⟨values, -, aborted⟩)
  · cases read : Integer.word field with
    | ok n => simp [read] at aborted
    | error fault =>
      simp only [read] at aborted
      exact Outcome.report_ne_abort _ aborted
  · split at aborted
    · exact Outcome.ok_ne_abort _ aborted
    · exact Outcome.report_ne_abort _ aborted

theorem ProcessStat.parse_ne_abort (text : Text) : ProcessStat.parse text ≠ .error .abort := by
  rcases denotes_or_isFaulty text with ⟨s, denotes⟩ | ⟨detail, faulty⟩
  · rw [parse_of_denotes denotes]
    exact nofun
  · rw [parse_of_isFaulty faulty]
    exact nofun

end Procfs

/-- Pages of a process, or its page faults together, are too many for a word. -/
def Linux.PagesExcess (pageSize : Nat) (statm : Procfs.Statm) (stat : Procfs.ProcessStat) : Prop :=
  (∃ pages ∈ [statm.resident, statm.size, statm.shared, statm.text, statm.data], Word.span ≤ pages * pageSize) ∨
    Word.span ≤ stat.minorFaults + stat.majorFaults

theorem Linux.Probe.memoryOfPages_eq_abort_iff {p : Probe} {statm : Procfs.Statm} {stat : Procfs.ProcessStat}
    {peak : Option Nat} : p.memoryOfPages statm stat peak = .error .abort ↔ PagesExcess p.pageSize statm stat := by
  simp only [memoryOfPages, Word.bind_mul_eq_abort_iff, Word.bind_add_eq_abort_iff, Outcome.ok_ne_abort, PagesExcess,
    List.mem_cons, List.not_mem_nil, or_and_right, exists_or, exists_eq_left, or_assoc, or_false]

end HostProbe
