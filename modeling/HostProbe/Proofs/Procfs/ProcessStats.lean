import HostProbe.Procfs.ProcessRecords
import HostProbe.Proofs.Text.Decimal
import HostProbe.Proofs.Text.Lines
import Mathlib.Data.List.GetD

/-! Records of processes as the kernel prints them, each on a line of its own. The name stands there as it is, between
parentheses, and may look like the rest of the line; what is read behind it begins at the last closing parenthesis. -/
namespace HostProbe.Procfs

open Integer (SpellsNat SpellsInt toDecimal)

/-! ### What a line says -/

inductive NumberType
  | int32
  | int64
  | word
  deriving Repr, DecidableEq

/-- The text is a number within the type's bounds. -/
def NumberType.Spells : NumberType → Text → Int → Prop
  | int32, t, z => SpellsInt t z ∧ -0x80000000 ≤ z ∧ z ≤ 0x7fffffff
  | int64, t, z => SpellsInt t z ∧ -0x8000000000000000 ≤ z ∧ z ≤ 0x7fffffffffffffff
  | word, t, z => ∃ n : Nat, SpellsNat t n ∧ n ≤ 0xffffffffffffffff ∧ z = n

namespace ProcessStat

/-- The columns that numbers are read from, counted from the state, in the order in which they are read. -/
def readColumns : List (Nat × NumberType) :=
  [(1, .int32), (4, .int64), (7, .word), (9, .word), (11, .word), (12, .word), (13, .int64), (14, .int64), (16, .int64),
    (17, .word), (19, .word), (20, .word), (21, .int64)]

/-- The name stands between the first opening parenthesis and the last closing one. -/
def Splits (text name back : Text) : Prop :=
  ∃ front, text = front ++ '(' :: (name ++ ')' :: back) ∧ '(' ∉ front ∧ ')' ∉ back

/-- The record holds what the columns say, each in its own place. -/
structure Tells (fields : List Text) (s : ProcessStat) : Prop where
  enough : 22 ≤ fields.length
  state : ∃ rest, fields.getD 0 [] = s.state :: rest
  ppid : NumberType.int32.Spells (fields.getD 1 []) s.ppid
  terminal : ∃ z, NumberType.int64.Spells (fields.getD 4 []) z ∧ s.terminal = Word.ofInt 64 z
  minorFaults : NumberType.word.Spells (fields.getD 7 []) s.minorFaults
  majorFaults : NumberType.word.Spells (fields.getD 9 []) s.majorFaults
  userTicks : NumberType.word.Spells (fields.getD 11 []) s.userTicks
  systemTicks : NumberType.word.Spells (fields.getD 12 []) s.systemTicks
  childrenUserTicks : NumberType.int64.Spells (fields.getD 13 []) s.childrenUserTicks
  childrenSystemTicks : NumberType.int64.Spells (fields.getD 14 []) s.childrenSystemTicks
  nice : NumberType.int64.Spells (fields.getD 16 []) s.nice
  threads : NumberType.word.Spells (fields.getD 17 []) s.threads
  startTicks : NumberType.word.Spells (fields.getD 19 []) s.startTicks
  virtualSize : NumberType.word.Spells (fields.getD 20 []) s.virtualSize
  residentPages : ∃ z, NumberType.int64.Spells (fields.getD 21 []) z ∧ s.residentPages = z.toNat

/-- The record is the line's. -/
def Denotes (text : Text) (s : ProcessStat) : Prop :=
  ∃ name back, Splits text name back ∧ s.name = String.ofList name ∧ Tells (Text.words back) s

/-- A number of its type stands in the column. -/
def IsNumber (fields : List Text) (column : Nat × NumberType) : Prop :=
  ∃ z, column.2.Spells (fields.getD column.1 []) z

/-- The first of the columns without a number of its type is reported, counted as manuals count it. -/
inductive IsFirstBad (fields : List Text) : List (Nat × NumberType) → String → Prop
  | here {i : Nat} {type : NumberType} {later : List (Nat × NumberType)} (bad : ¬IsNumber fields (i, type)) :
    IsFirstBad fields ((i, type) :: later) (s!"bad field {i + 3}: " ++ Text.quoted (fields.getD i []))
  | later {column : Nat × NumberType} {later : List (Nat × NumberType)} {detail : String}
    (good : IsNumber fields column) (bad : IsFirstBad fields later detail) :
    IsFirstBad fields (column :: later) detail

/-- What is wrong with a line that is no record. -/
inductive IsFaulty (text : Text) : String → Prop
  | unopened (unopened : '(' ∉ text) : IsFaulty text "missing '('"
  | unclosed (opened : '(' ∈ text) (unclosed : ')' ∉ text) : IsFaulty text "missing ')'"
  | mismatched {front rest : Text} (split : text = front ++ '(' :: rest) (first : '(' ∉ front) (closed : ')' ∈ front)
    (unclosed : ')' ∉ rest) : IsFaulty text "mismatched parentheses"
  | short {name back : Text} (splits : Splits text name back) (few : (Text.words back).length < 22) :
    IsFaulty text "too few fields"
  | bad {name back : Text} {detail : String} (splits : Splits text name back) (enough : 22 ≤ (Text.words back).length)
    (bad : IsFirstBad (Text.words back) readColumns detail) : IsFaulty text detail

/-! ### Columns -/

section columns

variable {fields : List Text} {i : Nat}

theorem int32?_eq_some_iff {t : Text} {z : Int} : Integer.int32? t = some z ↔ NumberType.int32.Spells t z :=
  Integer.int32?_eq_some_iff

theorem int64?_eq_some_iff {t : Text} {z : Int} : Integer.int64? t = some z ↔ NumberType.int64.Spells t z :=
  Integer.int64?_eq_some_iff

theorem word?_eq_some_iff {t : Text} {n : Nat} : Integer.word? t = some n ↔ NumberType.word.Spells t n := by
  rw [Integer.word?_eq_some_iff]
  constructor
  · exact fun ⟨spells, fits⟩ => ⟨n, spells, fits, rfl⟩
  · rintro ⟨m, spells, fits, same⟩
    cases Int.natCast_inj.mp same
    exact ⟨spells, fits⟩

theorem column_eq_ok_iff {α : Type} {read : Text → Option α} {a : α} :
    column read fields i = .ok a ↔ read (fields.getD i []) = some a := by
  simp only [column]
  split
  case h_1 value found => rw [found, Except.ok.injEq, Option.some.injEq]
  case h_2 missing =>
    rw [missing]
    exact ⟨nofun, nofun⟩

end columns

/-! ### Faults -/

/-- An outcome that rests on some columns: the first that is bad is reported, and with none there is a record. -/
def ReadsInOrder (fields : List Text) (columns : List (Nat × NumberType)) (outcome : Outcome ProcessStat) : Prop :=
  (∀ detail, IsFirstBad fields columns detail → outcome = failure detail) ∧
    ((∀ column ∈ columns, IsNumber fields column) → ∃ s, outcome = .ok s)

theorem readsInOrder_ok (fields : List Text) (s : ProcessStat) : ReadsInOrder fields [] (.ok s) :=
  ⟨nofun, fun _ => ⟨s, rfl⟩⟩

/-- Reading a column and then the rest reads all of them in order. -/
theorem readsInOrder_column {α : Type} {read : Text → Option α} {type : NumberType}
    (reads : ∀ t, (∃ a, read t = some a) ↔ ∃ z, type.Spells t z) {fields : List Text} {i : Nat}
    {later : List (Nat × NumberType)} {rest : α → Outcome ProcessStat}
    (inOrder : ∀ a, ReadsInOrder fields later (rest a)) :
    ReadsInOrder fields ((i, type) :: later) (column read fields i >>= rest) := by
  have number : (∃ a, read (fields.getD i []) = some a) ↔ IsNumber fields (i, type) := reads _
  constructor
  · rintro detail (bad | ⟨good, bad⟩)
    · have missing : read (fields.getD i []) = none :=
        Option.eq_none_iff_forall_ne_some.mpr fun a found => bad (number.mp ⟨a, found⟩)
      simp only [column, missing]
      rfl
    · obtain ⟨a, found⟩ := number.mpr good
      rw [column_eq_ok_iff.mpr found]
      exact (inOrder a).1 detail bad
  · intro all
    obtain ⟨good, others⟩ := List.forall_mem_cons.mp all
    obtain ⟨a, found⟩ := number.mpr good
    rw [column_eq_ok_iff.mpr found]
    exact (inOrder a).2 others

/-- Either every column holds its number, or there is a first that does not. -/
theorem good_or_bad (fields : List Text) (columns : List (Nat × NumberType)) :
    (∀ column ∈ columns, IsNumber fields column) ∨ ∃ detail, IsFirstBad fields columns detail := by
  induction columns with
  | nil => exact .inl nofun
  | cons column later ih =>
    by_cases good : IsNumber fields column
    case neg => exact .inr ⟨_, .here good⟩
    rcases ih with all | ⟨detail, bad⟩
    · exact .inl (List.forall_mem_cons.mpr ⟨good, all⟩)
    · exact .inr ⟨detail, .later good bad⟩

theorem int32?_reads (t : Text) : (∃ a, Integer.int32? t = some a) ↔ ∃ z, NumberType.int32.Spells t z := by
  simp only [int32?_eq_some_iff]

theorem int64?_reads (t : Text) : (∃ a, Integer.int64? t = some a) ↔ ∃ z, NumberType.int64.Spells t z := by
  simp only [int64?_eq_some_iff]

theorem word?_reads (t : Text) : (∃ a, Integer.word? t = some a) ↔ ∃ z, NumberType.word.Spells t z := by
  simp only [word?_eq_some_iff]
  constructor
  · exact fun ⟨n, spells⟩ => ⟨n, spells⟩
  · rintro ⟨_, n, spells, fits, rfl⟩
    exact ⟨n, n, spells, fits, rfl⟩

theorem readsInOrder_ofFields (name : Text) {fields : List Text} (enough : 22 ≤ fields.length) :
    ReadsInOrder fields readColumns (ofFields name fields) := by
  rw [ofFields, if_neg (Nat.not_lt.mpr enough)]
  refine readsInOrder_column int32?_reads fun ppid => readsInOrder_column int64?_reads fun terminal => ?_
  refine readsInOrder_column word?_reads fun minorFaults => readsInOrder_column word?_reads fun majorFaults => ?_
  refine readsInOrder_column word?_reads fun userTicks => readsInOrder_column word?_reads fun systemTicks => ?_
  refine readsInOrder_column int64?_reads fun childrenUser => readsInOrder_column int64?_reads fun childrenSystem => ?_
  refine readsInOrder_column int64?_reads fun nice => readsInOrder_column word?_reads fun threads => ?_
  refine readsInOrder_column word?_reads fun startTicks => readsInOrder_column word?_reads fun virtualSize => ?_
  exact readsInOrder_column int64?_reads fun residentPages => readsInOrder_ok fields _

/-! ### Records -/

theorem bind_eq_ok_iff {α β : Type} {outcome : Outcome α} {rest : α → Outcome β} {b : β} :
    (outcome >>= rest) = .ok b ↔ ∃ a, outcome = .ok a ∧ rest a = .ok b := by
  cases outcome with
  | error fault => exact ⟨nofun, fun ⟨_, failed, _⟩ => nomatch failed⟩
  | ok a => exact ⟨fun ended => ⟨a, rfl, ended⟩, fun ⟨_, same, ended⟩ => Except.ok.inj same ▸ ended⟩

/-- Behind the name a record is read exactly if the columns hold its numbers. -/
theorem ofFields_eq_ok_iff {name : Text} {fields : List Text} (whole : [] ∉ fields) {s : ProcessStat} :
    ofFields name fields = .ok s ↔ s.name = String.ofList name ∧ Tells fields s := by
  by_cases enough : fields.length < 22
  · rw [ofFields, if_pos enough]
    exact ⟨nofun, fun ⟨_, tells⟩ => absurd tells.enough (Nat.not_le.mpr enough)⟩
  have first : ∃ c rest, fields.getD 0 [] = c :: rest := by
    refine List.exists_cons_of_ne_nil fun empty => whole ?_
    rw [List.getD_eq_getElem _ _ (by omega)] at empty
    exact empty ▸ List.getElem_mem _
  obtain ⟨c, rest, state⟩ := first
  rw [ofFields, if_neg enough]
  simp only [bind_eq_ok_iff, column_eq_ok_iff, int32?_eq_some_iff, int64?_eq_some_iff, word?_eq_some_iff, state]
  constructor
  · rintro ⟨ppid, hp, terminal, ht, minor, hmin, major, hmaj, user, hu, system, hs, cuser, hcu, csystem, hcs, nice, hn,
      threads, hth, start, hst, size, hsz, pages, hpg, same⟩
    cases same
    exact ⟨rfl, ⟨Nat.not_lt.mp enough, ⟨rest, state⟩, hp, ⟨terminal, ht, rfl⟩, hmin, hmaj, hu, hs, hcu, hcs, hn, hth,
      hst, hsz, ⟨pages, hpg, rfl⟩⟩⟩
  · rintro ⟨named, tells⟩
    obtain ⟨terminal, ht, terminal_eq⟩ := tells.terminal
    obtain ⟨pages, hpg, pages_eq⟩ := tells.residentPages
    obtain ⟨others, same⟩ := tells.state
    rw [state] at same
    refine ⟨_, tells.ppid, terminal, ht, _, tells.minorFaults, _, tells.majorFaults, _, tells.userTicks, _,
      tells.systemTicks, _, tells.childrenUserTicks, _, tells.childrenSystemTicks, _, tells.nice, _, tells.threads, _,
      tells.startTicks, _, tells.virtualSize, pages, hpg, ?_⟩
    rw [← terminal_eq, ← pages_eq, ← named, (List.cons.inj same).1]
    rfl

/-! ### Lines -/

theorem parse_of_splits {text name back : Text} (splits : Splits text name back) :
    parse text = ofFields name (Text.words back) := by
  obtain ⟨front, rfl, first, last⟩ := splits
  have backwards : (name ++ ')' :: back).reverse = back.reverse ++ ')' :: name.reverse := by simp
  have absent : ')' ∉ back.reverse := fun member => last (List.mem_reverse.mp member)
  simp only [parse, Text.splitOnce_cons first, backwards, Text.splitOnce_cons absent, List.reverse_reverse]

theorem parse_of_unopened {text : Text} (unopened : '(' ∉ text) : parse text = failure "missing '('" := by
  simp only [parse, Text.splitOnce_of_notMem unopened]

theorem parse_of_unclosed {front rest : Text} (first : '(' ∉ front) (unclosed : ')' ∉ rest) :
    parse (front ++ '(' :: rest) = failure (if ')' ∈ front then "mismatched parentheses" else "missing ')'") := by
  have absent : ')' ∉ rest.reverse := fun member => unclosed (List.mem_reverse.mp member)
  have closed : (front ++ '(' :: rest).contains ')' ↔ ')' ∈ front := by
    simp [unclosed]
  simp only [parse, Text.splitOnce_cons first, Text.splitOnce_of_notMem absent, closed]

/-- Every text has no opening parenthesis, none that is closed, or a name. -/
theorem splits_or (text : Text) : '(' ∉ text ∨
    (∃ front rest, text = front ++ '(' :: rest ∧ '(' ∉ front ∧ ')' ∉ rest) ∨ ∃ name back, Splits text name back := by
  by_cases opened : '(' ∈ text
  case neg => exact .inl opened
  obtain ⟨front, rest, split, first⟩ := List.eq_append_cons_of_mem opened
  by_cases closed : ')' ∈ rest
  case neg => exact .inr (.inl ⟨front, rest, split, first, closed⟩)
  obtain ⟨after, before, backwards, last⟩ := List.eq_append_cons_of_mem (List.mem_reverse.mpr closed)
  have behind : rest = before.reverse ++ ')' :: after.reverse := by
    rw [← List.reverse_reverse rest, backwards]
    simp
  refine .inr (.inr ⟨before.reverse, after.reverse, front, ?_, first, fun member => last (List.mem_reverse.mp member)⟩)
  rw [split, behind]

theorem nil_notMem_words (t : Text) : [] ∉ Text.words t := by
  simp [Text.words]

theorem parse_of_denotes {text : Text} {s : ProcessStat} (denotes : Denotes text s) : parse text = .ok s := by
  obtain ⟨name, back, splits, named, tells⟩ := denotes
  rw [parse_of_splits splits]
  exact (ofFields_eq_ok_iff (nil_notMem_words back)).mpr ⟨named, tells⟩

/-- A line that is no record is reported with what is wrong with it. -/
theorem parse_of_isFaulty {text : Text} {detail : String} (faulty : IsFaulty text detail) :
    parse text = failure detail := by
  cases faulty with
  | unopened unopened => exact parse_of_unopened unopened
  | unclosed opened unclosed =>
    obtain ⟨front, rest, rfl, first⟩ := List.eq_append_cons_of_mem opened
    rw [List.mem_append, List.mem_cons, not_or, not_or] at unclosed
    rw [parse_of_unclosed first unclosed.2.2, if_neg unclosed.1]
  | mismatched split first closed unclosed => rw [split, parse_of_unclosed first unclosed, if_pos closed]
  | short splits few => rw [parse_of_splits splits, ofFields, if_pos few]
  | bad splits enough bad => exact (parse_of_splits splits).trans ((readsInOrder_ofFields _ enough).1 _ bad)

/-- Every line is that of a record, or something is wrong with it. -/
theorem denotes_or_isFaulty (text : Text) : (∃ s, Denotes text s) ∨ ∃ detail, IsFaulty text detail := by
  rcases splits_or text with unopened | ⟨front, rest, split, first, unclosed⟩ | ⟨name, back, splits⟩
  · exact .inr ⟨_, .unopened unopened⟩
  · by_cases closed : ')' ∈ front
    · exact .inr ⟨_, .mismatched split first closed unclosed⟩
    · refine .inr ⟨_, .unclosed ?_ ?_⟩
      · simp [split]
      · simp [split, closed, unclosed]
  · by_cases enough : 22 ≤ (Text.words back).length
    case neg => exact .inr ⟨_, .short splits (Nat.not_le.mp enough)⟩
    rcases good_or_bad (Text.words back) readColumns with good | ⟨detail, bad⟩
    · obtain ⟨s, read⟩ := (readsInOrder_ofFields name enough).2 good
      obtain ⟨named, tells⟩ := (ofFields_eq_ok_iff (nil_notMem_words back)).mp read
      exact .inl ⟨s, name, back, splits, named, tells⟩
    · exact .inr ⟨detail, .bad splits enough bad⟩

theorem parse_eq_ok_iff {text : Text} {s : ProcessStat} : parse text = .ok s ↔ Denotes text s := by
  refine ⟨fun read => ?_, parse_of_denotes⟩
  rcases denotes_or_isFaulty text with ⟨other, denotes⟩ | ⟨detail, faulty⟩
  · rw [parse_of_denotes denotes] at read
    cases read
    exact denotes
  · rw [parse_of_isFaulty faulty] at read
    cases read

end ProcessStat

/-! ### Printed lines -/

abbrev UnreadColumn := { t : Text // t ≠ [] ∧ ∀ c ∈ t, isBlank c = false ∧ c ≠ ')' }

structure StatRow where
  pid : Pid
  name : Text
  state : { c : Char // isBlank c = false ∧ c ≠ '(' ∧ c ≠ ')' }
  ppid : Int32
  group : UnreadColumn
  session : UnreadColumn
  terminal : Int64
  foreground : UnreadColumn
  flags : UnreadColumn
  minorFaults : UInt64
  childrenMinorFaults : UnreadColumn
  majorFaults : UInt64
  childrenMajorFaults : UnreadColumn
  userTicks : UInt64
  systemTicks : UInt64
  childrenUserTicks : Int64
  childrenSystemTicks : Int64
  priority : UnreadColumn
  nice : Int64
  threads : UInt64
  timer : UnreadColumn
  startTicks : UInt64
  virtualSize : UInt64
  residentPages : Int64
  others : List UnreadColumn
  /-- Spaces between columns beyond the one that has to be there. -/
  gaps : Nat → Nat
  /-- What ends the line. -/
  ending : { t : Text // ∀ c ∈ t, isBlank c }

namespace StatRow

def columns (r : StatRow) : List Text :=
  [[r.state.1], toDecimal r.ppid.toInt, r.group.1, r.session.1, toDecimal r.terminal.toInt, r.foreground.1, r.flags.1,
    toDecimal r.minorFaults.toNat, r.childrenMinorFaults.1, toDecimal r.majorFaults.toNat, r.childrenMajorFaults.1,
    toDecimal r.userTicks.toNat, toDecimal r.systemTicks.toNat, toDecimal r.childrenUserTicks.toInt,
    toDecimal r.childrenSystemTicks.toInt, r.priority.1, toDecimal r.nice.toInt, toDecimal r.threads.toNat, r.timer.1,
    toDecimal r.startTicks.toNat, toDecimal r.virtualSize.toNat, toDecimal r.residentPages.toInt] ++
    r.others.map (·.1)

def text (r : StatRow) : Text :=
  toDecimal r.pid ++ ' ' :: '(' :: (r.name ++ ')' :: ' ' :: (Text.aligned r.gaps r.columns ++ r.ending.1))

/-- The record of the process; less than no resident pages count as none. -/
def record (r : StatRow) : ProcessStat where
  name := String.ofList r.name
  state := r.state.1
  ppid := r.ppid.toInt
  terminal := Word.ofInt 64 r.terminal.toInt
  minorFaults := r.minorFaults.toNat
  majorFaults := r.majorFaults.toNat
  userTicks := r.userTicks.toNat
  systemTicks := r.systemTicks.toNat
  childrenUserTicks := r.childrenUserTicks.toInt
  childrenSystemTicks := r.childrenSystemTicks.toInt
  nice := r.nice.toInt
  threads := r.threads.toNat
  startTicks := r.startTicks.toNat
  virtualSize := r.virtualSize.toNat
  residentPages := r.residentPages.toInt.toNat

variable (r : StatRow)

theorem toDecimal_closed (z : Int) : toDecimal z ≠ [] ∧ ∀ c ∈ toDecimal z, isBlank c = false ∧ c ≠ ')' := by
  refine ⟨Integer.toDecimal_ne_nil z, fun c member => ?_⟩
  rcases Integer.mem_toDecimal member with rfl | digit
  · decide
  · refine ⟨Integer.isBlank_of_isDigit digit, ?_⟩
    rintro rfl
    cases digit

theorem columns_closed : ∀ column ∈ r.columns, column ≠ [] ∧ ∀ c ∈ column, isBlank c = false ∧ c ≠ ')' := by
  obtain ⟨unbroken, -, closed⟩ := r.state.2
  refine List.forall_mem_append.mpr ⟨?_, List.forall_mem_map.mpr fun column _ => column.2⟩
  simp only [List.forall_mem_cons]
  exact ⟨⟨List.cons_ne_nil _ _, ⟨unbroken, closed⟩, nofun⟩, toDecimal_closed _, r.group.2, r.session.2,
    toDecimal_closed _, r.foreground.2, r.flags.2, toDecimal_closed _, r.childrenMinorFaults.2, toDecimal_closed _,
    r.childrenMajorFaults.2, toDecimal_closed _, toDecimal_closed _, toDecimal_closed _, toDecimal_closed _,
    r.priority.2, toDecimal_closed _, toDecimal_closed _, r.timer.2, toDecimal_closed _, toDecimal_closed _,
    toDecimal_closed _, nofun⟩

def back : Text := ' ' :: (Text.aligned r.gaps r.columns ++ r.ending.1)

theorem words_back : Text.words r.back = r.columns := by
  have unbroken : ∀ column ∈ r.columns, column ≠ [] ∧ ∀ c ∈ column, isBlank c = false := fun column member =>
    (r.columns_closed column member).imp_right fun closed c within => (closed c within).1
  rw [back, Text.words_blank (by decide), Text.words_append_of_blank _ r.ending.2, Text.words_aligned unbroken]

/-- A printed line is split at its parentheses, whatever the name holds. -/
theorem splits_text : ProcessStat.Splits r.text r.name r.back := by
  refine ⟨toDecimal r.pid ++ [' '], by simp [text, back], fun member => ?_, fun member => ?_⟩
  · rcases List.mem_append.mp member with number | space
    · rcases Integer.mem_toDecimal number with sign | digit
      · cases sign
      · cases digit
    · cases List.mem_singleton.mp space
  · rw [back, List.mem_cons, List.mem_append] at member
    rcases member with space | among | ended
    · cases space
    · rcases Text.mem_aligned among with space | ⟨column, printed, within⟩
      · cases space
      · exact ((r.columns_closed column printed).2 _ within).2 rfl
    · exact absurd (r.ending.2 _ ended) (by decide)

theorem spells_int32 (n : Int32) : NumberType.int32.Spells (toDecimal n.toInt) n.toInt :=
  ⟨Integer.spellsInt_toDecimal _, n.le_toInt, n.toInt_le⟩

theorem spells_int64 (n : Int64) : NumberType.int64.Spells (toDecimal n.toInt) n.toInt :=
  ⟨Integer.spellsInt_toDecimal _, n.le_toInt, n.toInt_le⟩

theorem spells_word (n : UInt64) : NumberType.word.Spells (toDecimal n.toNat) n.toNat := by
  refine ⟨n.toNat, ?_, Nat.le_of_lt_succ n.toNat_lt, rfl⟩
  rw [Integer.toDecimal_natCast]
  exact Integer.spellsNat_toDigits _

/-- The state and the numbers of the row are what its columns say. -/
theorem tells_record : ProcessStat.Tells r.columns r.record where
  enough := by simp [columns]
  state := ⟨[], rfl⟩
  ppid := spells_int32 _
  terminal := ⟨_, spells_int64 _, rfl⟩
  minorFaults := spells_word _
  majorFaults := spells_word _
  userTicks := spells_word _
  systemTicks := spells_word _
  childrenUserTicks := spells_int64 _
  childrenSystemTicks := spells_int64 _
  nice := spells_int64 _
  threads := spells_word _
  startTicks := spells_word _
  virtualSize := spells_word _
  residentPages := ⟨_, spells_int64 _, rfl⟩

theorem denotes_record : ProcessStat.Denotes r.text r.record :=
  ⟨r.name, r.back, r.splits_text, rfl, r.words_back ▸ r.tells_record⟩

end StatRow

/-- Every printed line gives its process's record, whatever the name. A text is read just as its columns behind the name
say, and one that lacks a parenthesis, a column or a number is reported. -/
theorem stat_read : (∀ r : StatRow, ProcessStat.parse r.text = .ok r.record) ∧ ∀ text,
    (∀ s, ProcessStat.parse text = .ok s ↔ ProcessStat.Denotes text s) ∧
      (∀ detail, ProcessStat.IsFaulty text detail → ProcessStat.parse text = ProcessStat.failure detail) ∧
      ((∃ s, ProcessStat.Denotes text s) ∨ ∃ detail, ProcessStat.IsFaulty text detail) :=
  ⟨fun r => ProcessStat.parse_of_denotes r.denotes_record, fun text => ⟨fun _ => ProcessStat.parse_eq_ok_iff,
    fun _ => ProcessStat.parse_of_isFaulty, ProcessStat.denotes_or_isFaulty text⟩⟩

/-- A name that looks like the rest of the line. -/
example : ProcessStat.parse "7 (a) R 1) S 4 7 7 0 -1 64 10 0 2 0 30 5 -1 1 20 0 3 0 500 4096 -9\n".toList =
    .ok ⟨"a) R 1", 'S', 4, 0, 10, 2, 30, 5, -1, 1, 0, 3, 500, 4096, 0⟩ :=
  rfl

end HostProbe.Procfs
