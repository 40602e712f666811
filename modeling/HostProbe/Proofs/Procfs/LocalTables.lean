import HostProbe.Proofs.Procfs.InternetTables

/-! Tables of local sockets as the kernel prints them. The path is the last column and stands there as it is, so it is
read up to what the reader of columns cuts: blanks before it, and a carriage return before the newline. -/
namespace HostProbe.Procfs

open Integer (toHexDigits)

/-! ### Printed tables -/

inductive LocalType
  | stream
  | datagram
  | seqPacket
  deriving Repr, DecidableEq

namespace LocalType

def number : LocalType → Nat
  | stream => 1
  | datagram => 2
  | seqPacket => 5

def types : LocalType → SocketTypeSet
  | stream => .stream
  | datagram => .datagram
  | seqPacket => .seqPacket

end LocalType

/-- A line of the table; sockets without a name have the empty path. -/
structure LocalRow where
  slot : Column
  references : Column
  protocol : Column
  flags : Column
  type : LocalType
  state : Column
  inode : UInt64
  path : Text
  single : '\n' ∉ path
  /-- Spaces between columns beyond the one that has to be there. -/
  gaps : Nat → Nat

/-- A path that nothing is cut from. -/
def IsTight (path : Text) : Prop := (∀ c ∈ path.head?, isBlank c = false) ∧ path.getLast? ≠ some '\r'

-- Only the head is looked at; the instance found for it otherwise may go through all characters.
instance (path : Text) : Decidable (IsTight path) :=
  @instDecidableAnd _ _ (Option.decidableForallMem path.head?) inferInstance

/-- A path loses the blanks before it and one carriage return behind it. -/
def IsCutTo (path kept : Text) : Prop :=
  ∃ blanks ending, path = blanks ++ (kept ++ ending) ∧ (∀ c ∈ blanks, isBlank c) ∧
    (∀ c ∈ kept.head?, isBlank c = false) ∧ (ending = ['\r'] ∨ ending = [] ∧ path.getLast? ≠ some '\r')

namespace LocalRow

def columns (r : LocalRow) : List Text :=
  [r.slot.1, r.references.1, r.protocol.1, r.flags.1, toHexDigits 4 r.type.number, r.state.1,
    Nat.toDigits 10 r.inode.toNat]

def line (r : LocalRow) : Text := Text.aligned r.gaps r.columns ++ if r.path = [] then [] else ' ' :: r.path

/-- The socket tells what the row says, with the path cut. -/
structure Tells (r : LocalRow) (s : UnixSocket) : Prop where
  kind : s.kind = r.type.types
  inode : s.inode = r.inode.toNat
  path : IsCutTo r.path s.path.toList
  whole : s.path = String.ofList r.path ↔ IsTight r.path

end LocalRow

def localTable (header : Text) (rows : List LocalRow) : Text :=
  (header :: rows.map LocalRow.line).flatMap fun line => line ++ ['\n']

/-! ### Paths -/

def keptPath (path : Text) : Text := Text.trimStart (Text.dropReturn path)

/-- What is read of a path is the path as it is cut. -/
theorem isCutTo_keptPath (path : Text) : IsCutTo path (keptPath path) := by
  have parts : (Text.dropReturn path).takeWhile isBlank ++ keptPath path = Text.dropReturn path :=
    List.takeWhile_append_dropWhile
  have blanks : ∀ c ∈ (Text.dropReturn path).takeWhile isBlank, isBlank c := fun c => List.mem_takeWhile_imp
  have first : ∀ c ∈ (keptPath path).head?, isBlank c = false := by
    intro c member
    have stopped := List.head?_dropWhile_not isBlank (Text.dropReturn path)
    rw [Option.mem_def] at member
    simp only [keptPath, Text.trimStart] at member
    simpa [member] using stopped
  refine ⟨_, if path.getLast? = some '\r' then ['\r'] else [], ?_, blanks, first, ?_⟩
  · rw [← List.append_assoc, parts]
    split
    case isTrue last =>
      obtain ⟨before, rfl⟩ := List.getLast?_eq_some_iff.mp last
      rw [Text.dropReturn_append_return]
    case isFalse last => rw [Text.dropReturn_of_getLast? last, List.append_nil]
  · split
    case isTrue => exact .inl rfl
    case isFalse last => exact .inr ⟨rfl, last⟩

/-- A path is read as it is exactly if nothing is cut from it. -/
theorem IsCutTo.eq_iff {path kept : Text} (cut : IsCutTo path kept) : kept = path ↔ IsTight path := by
  obtain ⟨blanks, ending, split, blank, first, last⟩ := cut
  constructor
  · intro same
    subst same
    have length := congrArg List.length split
    simp only [List.length_append] at length
    have none : ending = [] := List.length_eq_zero_iff.mp (by omega)
    exact ⟨first, (last.resolve_left (by simp [none])).2⟩
  · rintro ⟨head, tail⟩
    have unblank : blanks = [] := by
      cases blanks with
      | nil => rfl
      | cons c rest =>
        have other := head c (by simp [split])
        rw [blank c List.mem_cons_self] at other
        cases other
    rcases last with cut | ⟨none, -⟩
    · exact absurd (by simp [split, cut]) tail
    · rw [split, unblank, none, List.nil_append, List.append_nil]

/-! ### Columns -/

def IsApart (rest : Text) : Prop := ∀ c ∈ rest.head?, isBlank c

theorem words_append {rest : Text} (apart : IsApart rest) (t : Text) :
    Text.words (t ++ rest) = Text.words t ++ Text.words rest := by
  cases rest with
  | nil => rw [List.append_nil, Text.words_nil, List.append_nil]
  | cons c others => rw [Text.words_append_cons t (apart c rfl), Text.words_blank (apart c rfl)]

theorem trimStart_append {word : Text} (unbroken : ∀ c ∈ word, isBlank c = false) (nonempty : word ≠ [])
    (rest : Text) : Text.trimStart (word ++ rest) = word ++ rest := by
  obtain ⟨c, others, rfl⟩ := List.exists_cons_of_ne_nil nonempty
  exact List.dropWhile_cons_of_neg (by simp [unbroken c List.mem_cons_self])

theorem dropWhile_append {word : Text} (unbroken : ∀ c ∈ word, isBlank c = false) {rest : Text}
    (apart : IsApart rest) : (word ++ rest).dropWhile (fun c => !isBlank c) = rest := by
  have kept : ∀ c ∈ word, (fun c => !isBlank c) c := fun c member => by simp [unbroken c member]
  rw [List.dropWhile_append_of_pos kept]
  cases rest with
  | nil => rfl
  | cons c others => exact List.dropWhile_cons_of_neg (by simp [apart c rfl])

theorem trimStart_spaces (count : Nat) (rest : Text) :
    Text.trimStart (List.replicate count ' ' ++ rest) = Text.trimStart rest :=
  List.dropWhile_append_of_pos fun c member => by
    rw [List.eq_of_mem_replicate member]
    decide

theorem trimStart_aligned {gaps : Nat → Nat} {ws : List Text} (some : ws ≠ [])
    (all : ∀ word ∈ ws, word ≠ [] ∧ ∀ c ∈ word, isBlank c = false) (rest : Text) :
    Text.trimStart (Text.aligned gaps ws ++ rest) = Text.aligned gaps ws ++ rest := by
  match ws, some, all with
  | [word], _, all =>
    obtain ⟨nonempty, unbroken⟩ := all word List.mem_cons_self
    exact trimStart_append unbroken nonempty rest
  | word :: next :: others, _, all =>
    obtain ⟨nonempty, unbroken⟩ := all word List.mem_cons_self
    rw [Text.aligned, List.append_assoc]
    exact trimStart_append unbroken nonempty _

/-- As many columns as there are words in front are skipped, and the blanks behind them. -/
theorem go_aligned {gaps : Nat → Nat} {ws : List Text} (some : ws ≠ [])
    (all : ∀ word ∈ ws, word ≠ [] ∧ ∀ c ∈ word, isBlank c = false) {rest : Text} (apart : IsApart rest) :
    skipFields.go ws.length (Text.aligned gaps ws ++ rest) = Text.trimStart rest := by
  fun_induction Text.aligned gaps ws with
  | case1 => exact absurd rfl some
  | case2 gaps word =>
    obtain ⟨-, unbroken⟩ := all word List.mem_cons_self
    rw [List.length_singleton, skipFields.go, dropWhile_append unbroken apart, skipFields.go]
  | case3 gaps word next others ih =>
    obtain ⟨⟨-, unbroken⟩, behind⟩ := List.forall_mem_cons.mp all
    have space : IsApart (' ' :: (List.replicate (gaps 0) ' ' ++
        (Text.aligned (fun i => gaps (i + 1)) (next :: others) ++ rest))) := by
      rintro _ ⟨⟩
      decide
    rw [List.length_cons, skipFields.go, List.append_assoc, List.cons_append, List.append_assoc,
      dropWhile_append unbroken space, ← List.cons_append, ← List.replicate_succ, trimStart_spaces,
      trimStart_aligned (List.cons_ne_nil next others) behind]
    exact ih (List.cons_ne_nil next others) behind

theorem skipFields_aligned {gaps : Nat → Nat} {ws : List Text} (some : ws ≠ [])
    (all : ∀ word ∈ ws, word ≠ [] ∧ ∀ c ∈ word, isBlank c = false) {rest : Text} (apart : IsApart rest) :
    skipFields (Text.aligned gaps ws ++ rest) ws.length = Text.trimStart rest := by
  rw [skipFields, trimStart_aligned some all, go_aligned some all apart]

namespace LocalRow

variable (r : LocalRow)

theorem columns_unbroken : ∀ column ∈ r.columns, column ≠ [] ∧ ∀ c ∈ column, isBlank c = false := by
  intro column member
  simp only [columns, List.mem_cons, List.not_mem_nil, or_false] at member
  rcases member with rfl | rfl | rfl | rfl | rfl | rfl | rfl
  · exact r.slot.2
  · exact r.references.2
  · exact r.protocol.2
  · exact r.flags.2
  · exact Integer.unbroken_toHexDigits (by decide) _
  · exact r.state.2
  · exact ⟨Nat.toDigits_ne_nil, Integer.unbroken_toDigits _⟩

theorem notMem_aligned {c : Char} (blank : isBlank c) (other : c ≠ ' ') : c ∉ Text.aligned r.gaps r.columns := by
  intro member
  rcases Text.mem_aligned member with space | ⟨column, among, within⟩
  · exact other space
  · rw [(r.columns_unbroken column among).2 c within] at blank
    cases blank

theorem single_line : '\n' ∉ r.line := by
  have columns := r.notMem_aligned (c := '\n') (by decide) (by decide)
  have path := r.single
  rw [line, List.mem_append]
  split
  · simp [columns]
  · simp [columns, path]

/-- The end of the line belongs to the path, if there is one. -/
theorem dropReturn_line : ∃ rest, IsApart rest ∧ Text.dropReturn r.line = Text.aligned r.gaps r.columns ++ rest ∧
    Text.trimStart rest = keptPath r.path := by
  by_cases named : r.path = []
  · refine ⟨[], nofun, ?_, ?_⟩
    · rw [line, if_pos named, List.append_nil]
      refine Text.dropReturn_of_getLast? fun last => ?_
      exact r.notMem_aligned (by decide) (by decide) (List.mem_of_getLast? last)
    · rw [keptPath, named]
      rfl
  · refine ⟨' ' :: Text.dropReturn r.path, ?_, ?_, ?_⟩
    · rintro _ ⟨⟩
      decide
    · rw [line, if_neg named, Text.dropReturn_append_space]
    · exact List.dropWhile_cons_of_pos (by decide)

def socket : UnixSocket where
  kind := r.type.types
  inode := r.inode.toNat
  path := String.ofList (keptPath r.path)

/-- What is read from a row tells what the row says. -/
theorem tells_socket : r.Tells r.socket where
  kind := rfl
  inode := rfl
  path := by
    rw [socket, String.toList_ofList]
    exact isCutTo_keptPath r.path
  whole := by
    rw [socket, ← (isCutTo_keptPath r.path).eq_iff]
    exact String.ofList_inj

/-- A printed row is read. -/
theorem parseUnixLine_line : parseUnixLine (Text.dropReturn r.line) = .ok (some r.socket) := by
  obtain ⟨rest, apart, cut, path⟩ := r.dropReturn_line
  have words : Text.words (Text.dropReturn r.line) = r.columns ++ Text.words rest := by
    rw [cut, words_append apart, Text.words_aligned r.columns_unbroken]
  have type : unixSocketType? (toHexDigits 4 r.type.number) = some r.type.types := by
    cases r.type <;> decide
  have inode : Integer.word? (Nat.toDigits 10 r.inode.toNat) = some r.inode.toNat :=
    Integer.word?_toDigits (Nat.le_of_lt_succ r.inode.toNat_lt)
  have fifth : (r.columns ++ Text.words rest).getD 4 [] = toHexDigits 4 r.type.number := rfl
  have seventh : (r.columns ++ Text.words rest).getD 6 [] = Nat.toDigits 10 r.inode.toNat := rfl
  have enough : ¬(r.columns ++ Text.words rest).length < 7 := by simp [columns]
  have behind : skipFields (Text.dropReturn r.line) 7 = keptPath r.path := by
    rw [cut, ← path]
    exact skipFields_aligned (List.cons_ne_nil _ _) r.columns_unbroken apart
  simp only [parseUnixLine, words, if_neg enough, fifth, seventh, type, inode, behind]
  rfl

end LocalRow

/-- Reading a printed table gives a socket for each row, in order. Its path is the row's if that neither begins with a
blank nor ends with a carriage return. -/
theorem localTable_read {header : Text} (single : '\n' ∉ header) (rows : List LocalRow) :
    ∃ sockets, parseNetUnix (localTable header rows) = .ok sockets ∧ List.Forall₂ LocalRow.Tells rows sockets := by
  have lines : Text.lines (localTable header rows) = (header :: rows.map LocalRow.line).map Text.dropReturn := by
    refine Text.lines_flatMap (List.forall_mem_cons.mpr ⟨single, ?_⟩)
    exact List.forall_mem_map.mpr fun r _ => r.single_line
  have parsed : ((rows.map LocalRow.line).map Text.dropReturn).mapM parseUnixLine =
      .ok (rows.map fun r => some r.socket) := by
    clear lines
    induction rows with
    | nil => rfl
    | cons r rows ih =>
      rw [List.map_cons, List.map_cons, List.mapM_cons, r.parseUnixLine_line, ih]
      rfl
  refine ⟨rows.map LocalRow.socket, ?_, ?_⟩
  · rw [parseNetUnix, lines, List.map_cons, List.drop_one, List.tail_cons, parsed]
    exact congrArg Except.ok (by simp [List.filterMap_map])
  · rw [List.forall₂_map_right_iff, List.forall₂_same]
    exact fun r _ => r.tells_socket

namespace LocalRow

def ofPath (type : LocalType) (inode : UInt64) (path : Text) (single : '\n' ∉ path) : LocalRow where
  slot := ⟨"0000000000000000:".toList, by decide⟩
  references := ⟨"00000002".toList, by decide⟩
  protocol := ⟨List.replicate 8 '0', by decide⟩
  flags := ⟨"00010000".toList, by decide⟩
  type := type
  state := ⟨"01".toList, by decide⟩
  inode := inode
  path := path
  single := single
  gaps i := if i = 5 then 5 - (Nat.toDigits 10 inode.toNat).length else 0

example : (ofPath .datagram 712 [] nofun).line =
    "0000000000000000: 00000002 00000000 00010000 0002 01   712".toList := by
  decide

end LocalRow

/-- Sockets with a space in their path, with no path, and with a space behind it. -/
def busRows : List LocalRow :=
  [.ofPath .stream 16163 "/run/bus/private socket".toList (by decide), .ofPath .datagram 712 [] nofun,
    .ofPath .seqPacket 20001 "@bus ".toList (by decide)]

/-- Rows with paths that nothing is cut from. -/
theorem localTable_read_busRows : '\n' ∉ "Num RefCount".toList ∧ (∀ r ∈ busRows, IsTight r.path) ∧
    ∃ sockets, parseNetUnix (localTable "Num RefCount".toList busRows) = .ok sockets ∧
      List.Forall₂ LocalRow.Tells busRows sockets := by
  have single : '\n' ∉ "Num RefCount".toList := by decide
  exact ⟨single, by decide, localTable_read single busRows⟩

/-- Paths that differ in a blank before them, and in a carriage return behind them. -/
def alikeRows : List LocalRow :=
  [.ofPath .stream 16163 " /run/bus".toList (by decide), .ofPath .stream 16163 "/run/bus\r".toList (by decide),
    .ofPath .stream 16163 "/run/bus".toList (by decide)]

/-- Such paths are not told apart. -/
theorem alikeRows_confused :
    parseNetUnix (localTable "Num RefCount".toList alikeRows) = .ok (List.replicate 3 ⟨.stream, 16163, "/run/bus"⟩) ∧
      (List.replicate 3 (⟨.stream, 16163, "/run/bus"⟩ : UnixSocket)).map UnixSocket.path ≠
        alikeRows.map fun r => String.ofList r.path := by
  exact ⟨rfl, by decide⟩

end HostProbe.Procfs
