import HostProbe.FreeBSD.Records
import HostProbe.Proofs.Fields
import HostProbe.Proofs.Overflow.Words

/-! Tables of control blocks. Each entry tells its length and, behind it, how long its inner part is; both are numbers
of 64 bits that nothing bounds. -/
namespace HostProbe.FreeBSD

open Bytes (HoldsAt)

/-! ### Entries -/

/-- Length told by the record in front, where the bytes are enough to tell one. -/
def toldLength? (bytes : Bytes) : Option Nat := (Bytes.slice? bytes 0 8).map Bytes.toNat

theorem length_of_toldLength? {bytes : Bytes} {length : Nat} (told : toldLength? bytes = some length) :
    8 ≤ bytes.length := by
  by_contra short
  have untold : Bytes.slice? bytes 0 8 = none := Bytes.slice?_eq_none (by omega)
  rw [toldLength?, untold] at told
  cases told

/-- No entry follows: a length is not told, is none that an entry may have, or is more than there is. -/
def EndsEntries (header : Nat) (rest : Bytes) : Prop :=
  ∀ length, toldLength? rest = some length → length ≤ header ∨ rest.length < length

/-- The whole entries that bytes begin with, each longer than the table's header, and what is left behind them. -/
inductive Entries (header : Nat) : Bytes → List Bytes → Bytes → Prop
  | ended {rest : Bytes} (ends : EndsEntries header rest) : Entries header rest [] rest
  | entry {bytes rest : Bytes} {length : Nat} {others : List Bytes} (told : toldLength? bytes = some length)
      (longer : header < length) (within : length ≤ bytes.length)
      (behind : Entries header (bytes.drop length) others rest) :
      Entries header bytes (bytes.take length :: others) rest

/-- Any bytes can be divided into entries and a rest. -/
theorem exists_entries (header : Nat) (bytes : Bytes) : ∃ entries rest, Entries header bytes entries rest := by
  induction size : bytes.length using Nat.strong_induction_on generalizing bytes with
  | h n ih =>
    by_cases ends : EndsEntries header bytes
    · exact ⟨[], bytes, .ended ends⟩
    · simp only [EndsEntries, not_forall, not_or, Nat.not_le, Nat.not_lt] at ends
      obtain ⟨length, told, longer, within⟩ := ends
      obtain ⟨others, rest, behind⟩ := ih (bytes.drop length).length (by rw [List.length_drop]; omega) _ rfl
      exact ⟨_, rest, .entry told longer within behind⟩

/-- Entries are consecutive. -/
theorem Entries.flatten {header : Nat} {bytes rest : Bytes} {entries : List Bytes}
    (cut : Entries header bytes entries rest) : bytes = entries.flatten ++ rest := by
  induction cut with
  | ended => rfl
  | entry told longer within behind ih => rw [List.flatten_cons, List.append_assoc, ← ih, List.take_append_drop]

/-! ### Reading -/

/-- Length that an entry tells of its inner part; one too short to tell it counts as zero. -/
def innerLength (entry : Bytes) : Nat := ((Bytes.slice? entry 8 8).map Bytes.toNat).getD 0

/-- Address of the control block in an entry and the state at an offset, if both are within the entry. -/
def readingAt? (entry : Bytes) (stateOffset : Nat) : Option (Nat × Int) := do
  let address ← (Bytes.slice? entry 32 8).map Bytes.toNat
  let state ← (Bytes.slice? entry stateOffset 4).map fun b => Bytes.intAt b 0 4
  return (address, state)

/-- The state stands behind the inner part, which begins at the eighth byte. -/
def reading? (entry : Bytes) : Option (Nat × Int) := readingAt? entry (8 + innerLength entry + 160)

/-- The inner part is told to be so long that the state behind it has no offset. -/
def InnerOverflows (entry : Bytes) : Prop := Word.span ≤ 8 + innerLength entry + 160

/-- Length told for an entry that the bytes do not have in full; there is none where no entry follows. -/
def missingLength (header : Nat) (rest : Bytes) : Nat :=
  match toldLength? rest with
  | none => 0
  | some length => if header < length then length else 0

/-- A length among the entries leads to an offset that is no word: of a state in its entry, or of the last entry's
end, whether or not the bytes reach as far. -/
def Excessive (header offset : Nat) (entries : List Bytes) (rest : Bytes) : Prop :=
  (∃ entry ∈ entries, InnerOverflows entry) ∨ Word.span ≤ offset + entries.flatten.length + missingLength header rest

section walk

variable {header fuel offset : Nat} {rest : Bytes} {found : List (Nat × Int)}

private theorem go_none (untold : toldLength? rest = none) :
    tcpStates.go header fuel offset rest found = .ok found := by
  cases fuel with
  | zero => rfl
  | succ fuel => rw [tcpStates.go, Option.map_eq_none_iff.mp untold]

private theorem go_short {length : Nat} (told : toldLength? rest = some length) (short : length ≤ header) :
    tcpStates.go header fuel offset rest found = .ok found := by
  cases fuel with
  | zero => rfl
  | succ fuel =>
    obtain ⟨field, read, rfl⟩ := Option.map_eq_some_iff.mp told
    rw [tcpStates.go, read]
    simp only [if_pos short]
    rfl

/-- An entry within the bytes is read, and the next one follows it. -/
private theorem go_long {length : Nat} (told : toldLength? rest = some length) (longer : header < length) :
    tcpStates.go header (fuel + 1) offset rest found = (do
      let next ← Word.add offset length
      match Bytes.slice? rest 0 length with
      | none => return found
      | some entry =>
        let state ← Word.add (← Word.add 8 (innerLength entry)) 160
        tcpStates.go header fuel next (rest.drop length) ((readingAt? entry state).toList ++ found)) := by
  obtain ⟨field, read, rfl⟩ := Option.map_eq_some_iff.mp told
  rw [tcpStates.go, read]
  simp only [if_neg (Nat.not_le.mpr longer)]
  refine bind_congr fun next => ?_
  cases Bytes.slice? rest 0 (Bytes.toNat field) with
  | none => rfl
  | some entry =>
    refine bind_congr fun inner => bind_congr fun state => ?_
    rw [readingAt?]
    cases Bytes.slice? entry 32 8 with
    | none => rfl
    | some address => cases Bytes.slice? entry state 4 <;> rfl

/-- An entry that is there is read, unless an offset is too large. -/
private theorem go_entry {length : Nat} (told : toldLength? rest = some length) (longer : header < length)
    (within : length ≤ rest.length) (reached : offset + length < Word.span)
    (moderate : ¬InnerOverflows (rest.take length)) :
    tcpStates.go header (fuel + 1) offset rest found = tcpStates.go header fuel (offset + length) (rest.drop length)
      ((reading? (rest.take length)).toList ++ found) := by
  have held : HoldsAt rest 0 (rest.take length) := List.take_prefix _ _
  rw [InnerOverflows, Nat.not_le] at moderate
  have inner : 8 + innerLength (rest.take length) < Word.span := by omega
  rw [go_long told longer, held.slice? (List.length_take_of_le within) (by omega)]
  simp only [Word.add_of_lt reached, Word.add_of_lt inner, Word.add_of_lt moderate, bind, Except.bind, reading?]

/-- Of an entry that is there, an offset may be too large. -/
private theorem go_excess {length : Nat} (told : toldLength? rest = some length) (longer : header < length)
    (within : length ≤ rest.length) (excess : Word.span ≤ offset + length ∨ InnerOverflows (rest.take length)) :
    tcpStates.go header (fuel + 1) offset rest found = .error .abort := by
  have held : HoldsAt rest 0 (rest.take length) := List.take_prefix _ _
  rw [go_long told longer, held.slice? (List.length_take_of_le within) (by omega), Word.bind_add_eq_abort_iff]
  exact excess.imp_right fun inner =>
    Word.bind_add_eq_abort_iff.mpr (.inr (Word.bind_add_eq_abort_iff.mpr (.inl inner)))

/-- Where no entry follows, an offset is too large only for the length that is missing. -/
private theorem go_ends (ends : EndsEntries header rest) (enough : rest.length ≤ fuel) (inside : offset < Word.span) :
    Word.span ≤ offset + missingLength header rest ∧
        tcpStates.go header fuel offset rest found = .error .abort ∨
      offset + missingLength header rest < Word.span ∧ tcpStates.go header fuel offset rest found = .ok found := by
  cases told : toldLength? rest with
  | none =>
    have missing : missingLength header rest = 0 := by rw [missingLength, told]
    exact .inr ⟨missing ▸ inside, go_none told⟩
  | some length =>
    by_cases longer : header < length
    · have missing : missingLength header rest = length := by rw [missingLength, told]; exact if_pos longer
      have cut : rest.length < length := (ends length told).resolve_left (Nat.not_le.mpr longer)
      have some := length_of_toldLength? told
      obtain ⟨fuel, rfl⟩ : ∃ n, fuel = n + 1 := ⟨fuel - 1, by omega⟩
      rw [go_long told longer, Bytes.slice?_eq_none (by omega), missing]
      rcases Nat.lt_or_ge (offset + length) Word.span with fits | excess
      · rw [Word.add_of_lt fits]
        exact .inr ⟨fits, rfl⟩
      · exact .inl ⟨excess, Word.bind_add_eq_abort_iff.mpr (.inl excess)⟩
    · have missing : missingLength header rest = 0 := by rw [missingLength, told]; exact if_neg longer
      exact .inr ⟨missing ▸ inside, go_short told (Nat.not_lt.mp longer)⟩

end walk

/-- The walk over what is left reads its entries, unless an offset is too large. -/
theorem Entries.go_cases {header : Nat} {bytes rest : Bytes} {entries : List Bytes}
    (cut : Entries header bytes entries rest) {fuel : Nat} (enough : bytes.length ≤ fuel) {offset : Nat}
    (inside : offset < Word.span) (found : List (Nat × Int)) :
    Excessive header offset entries rest ∧ tcpStates.go header fuel offset bytes found = .error .abort ∨
      ¬Excessive header offset entries rest ∧
        tcpStates.go header fuel offset bytes found = .ok ((entries.filterMap reading?).reverse ++ found) := by
  induction cut generalizing fuel offset found with
  | ended ends =>
    refine (go_ends ends enough inside).imp (And.imp_left .inr) (And.imp_left fun moderate => ?_)
    rintro (⟨_, ⟨⟩, _⟩ | excess)
    exact absurd moderate (Nat.not_lt.mpr excess)
  | @entry bytes rest length others told longer within behind ih =>
    obtain ⟨fuel, rfl⟩ : ∃ n, fuel = n + 1 := ⟨fuel - 1, by omega⟩
    have size : offset + (bytes.take length :: others).flatten.length + missingLength header rest =
        offset + length + others.flatten.length + missingLength header rest := by
      rw [List.flatten_cons, List.length_append, List.length_take_of_le within]
      omega
    by_cases excess : Word.span ≤ offset + length ∨ InnerOverflows (bytes.take length)
    · refine .inl ⟨?_, go_excess told longer within excess⟩
      rcases excess with beyond | inner
      · exact .inr (size ▸ by omega)
      · exact .inl ⟨_, List.mem_cons_self, inner⟩
    · obtain ⟨reached, moderate⟩ := not_or.mp excess
      have same : Excessive header offset (bytes.take length :: others) rest ↔
          Excessive header (offset + length) others rest := by
        rw [Excessive, size, List.exists_mem_cons_iff, or_iff_right moderate, Excessive]
      have readings : ((bytes.take length :: others).filterMap reading?).reverse ++ found =
          (others.filterMap reading?).reverse ++ ((reading? (bytes.take length)).toList ++ found) := by
        cases read : reading? (bytes.take length) with
        | none => rw [List.filterMap_cons_none read]; rfl
        | some reading => rw [List.filterMap_cons_some read, List.reverse_cons, List.append_assoc]; rfl
      have shorter : (bytes.drop length).length ≤ fuel := by
        rw [List.length_drop]
        omega
      rw [go_entry told longer within (Nat.not_le.mp reached) moderate, same, readings]
      exact ih shorter (Nat.not_le.mp reached) _

/-- A table whose entries are known is read, unless an offset is too large. -/
theorem tcpStates_of_entries {bytes rest : Bytes} {header : Nat} {entries : List Bytes}
    (told : toldLength? bytes = some header) (cut : Entries header (bytes.drop header) entries rest) :
    Excessive header header entries rest ∧ tcpStates bytes = .error .abort ∨
      ¬Excessive header header entries rest ∧ tcpStates bytes = .ok (entries.filterMap reading?).reverse := by
  obtain ⟨field, read, rfl⟩ := Option.map_eq_some_iff.mp told
  have inside : Bytes.toNat field < Word.span := by
    have bounded := Bytes.toNat_lt field
    rwa [Bytes.length_of_slice? read] at bounded
  have shorter : (bytes.drop (Bytes.toNat field)).length ≤ bytes.length := by
    rw [List.length_drop]
    omega
  rw [tcpStates, read]
  have cases := cut.go_cases shorter inside []
  rwa [List.append_nil] at cases

/-- Just the lengths that lead to an offset that is no word keep the states of a table from being read. Any other
length ends the table or leaves its own entry out. -/
theorem tcpStates_decided (bytes : Bytes) :
    toldLength? bytes = none ∧ tcpStates bytes = .ok [] ∨
      ∃ header entries rest, toldLength? bytes = some header ∧ Entries header (bytes.drop header) entries rest ∧
        (Excessive header header entries rest ∧ tcpStates bytes = .error .abort ∨
          ¬Excessive header header entries rest ∧ tcpStates bytes = .ok (entries.filterMap reading?).reverse) := by
  cases told : toldLength? bytes with
  | none => exact .inl ⟨rfl, by rw [tcpStates, Option.map_eq_none_iff.mp told]⟩
  | some header =>
    obtain ⟨entries, rest, cut⟩ := exists_entries header (bytes.drop header)
    exact .inr ⟨header, entries, rest, rfl, cut, tcpStates_of_entries told cut⟩

/-- A length of all ones gives up, as the length of an entry that is not there and as that of an inner part. -/
theorem swollenLengths_abort :
    tcpStates (Bytes.ofNat 8 8 ++ Bytes.ofNat 8 Word.top) = .error .abort ∧
      tcpStates (Bytes.ofNat 8 8 ++ (Bytes.ofNat 8 40 ++ Bytes.ofNat 8 Word.top ++ List.replicate 24 0)) =
        .error .abort := by decide

/-! ### Tables as the kernel writes them -/

/-- A control block with the bytes of its entry that stand for neither its address nor its state. -/
structure ControlBlock where
  address : UInt64
  state : Int32
  /-- Length that the entry tells of its inner part, which its address is within. -/
  inner : Nat
  status : Vector UInt8 16
  socket : Vector UInt8 (128 + inner)
  rest : Bytes

namespace ControlBlock

variable (b : ControlBlock)

def length : Nat := 172 + b.inner + b.rest.length

def fields : List Bytes :=
  [Bytes.ofNat 8 b.length, Bytes.ofNat 8 b.inner, b.status.toList, Bytes.ofNat 8 b.address.toNat, b.socket.toList,
    Bytes.ofInt32 b.state, b.rest]

def bytes : Bytes := b.fields.flatten

theorem sized : b.fields.map List.length = [8, 8, 16, 8, 128 + b.inner, 4, b.rest.length] := by
  simp [fields, Bytes.length_ofNat]

@[simp] theorem length_bytes : b.bytes.length = b.length := by
  rw [bytes, List.length_flatten, b.sized, length]
  simp only [List.sum_cons, List.sum_nil]
  omega

variable {b : ControlBlock}

theorem toldLength?_bytes (fits : b.length < Word.span) (rest : Bytes) :
    toldLength? (b.bytes ++ rest) = some b.length := by
  have held : HoldsAt b.bytes 0 (Bytes.ofNat 8 b.length) := Bytes.holdsAt_flatten b.sized (i := 0) rfl
  exact (held.append rest).map_toNat fits (by decide)

theorem innerLength_bytes (fits : b.inner < Word.span) : innerLength b.bytes = b.inner := by
  have held : HoldsAt b.bytes 8 (Bytes.ofNat 8 b.inner) := Bytes.holdsAt_flatten b.sized (i := 1) rfl
  rw [innerLength, held.map_toNat fits (by decide), Option.getD_some]

theorem reading?_bytes (fits : b.inner < Word.span) : reading? b.bytes = some (b.address.toNat, b.state.toInt) := by
  have address : HoldsAt b.bytes 32 (Bytes.ofNat 8 b.address.toNat) := Bytes.holdsAt_flatten b.sized (i := 3) rfl
  have state : HoldsAt b.bytes (8 + b.inner + 160) (Bytes.ofInt32 b.state) := by
    have offset : 8 + b.inner + 160 = (([8, 8, 16, 8, 128 + b.inner, 4, b.rest.length] : List Nat).take 5).sum := by
      simp only [List.take_succ_cons, List.take_zero, List.sum_cons, List.sum_nil]
      omega
    exact offset ▸ Bytes.holdsAt_flatten b.sized (i := 5) rfl
  rw [reading?, readingAt?, innerLength_bytes fits, address.map_toNat b.address.toNat_lt (by decide), state.map_intAt]
  rfl

end ControlBlock

/-- Blocks are cut one by one, up to where no entry follows. -/
theorem Entries.blocks {header : Nat} {rest : Bytes} (ends : EndsEntries header rest) {blocks : List ControlBlock}
    (proper : ∀ b ∈ blocks, header < b.length ∧ b.length < Word.span) :
    Entries header (blocks.flatMap ControlBlock.bytes ++ rest) (blocks.map ControlBlock.bytes) rest := by
  induction blocks with
  | nil => exact .ended ends
  | cons b others ih =>
    obtain ⟨⟨longer, fits⟩, properOthers⟩ := List.forall_mem_cons.mp proper
    rw [List.flatMap_cons, List.map_cons, List.append_assoc]
    have behind : (b.bytes ++ (others.flatMap ControlBlock.bytes ++ rest)).drop b.length =
        others.flatMap ControlBlock.bytes ++ rest := by rw [← b.length_bytes, List.drop_left]
    have cut := Entries.entry (ControlBlock.toldLength?_bytes fits _) longer
      (by rw [List.length_append, b.length_bytes]; omega) (behind.symm ▸ ih properOthers)
    rwa [← b.length_bytes, List.take_left] at cut

/-- The record that a table begins with, and that ends it: a length and what it counts. -/
def generation (content : Bytes) : Bytes := Bytes.ofNat 8 (8 + content.length) ++ content

@[simp] theorem length_generation (content : Bytes) : (generation content).length = 8 + content.length := by
  rw [generation, List.length_append, Bytes.length_ofNat]

theorem toldLength?_generation {content : Bytes} (fits : 8 + content.length < Word.span) (rest : Bytes) :
    toldLength? (generation content ++ rest) = some (8 + content.length) := by
  have held : HoldsAt (generation content ++ rest) 0 (Bytes.ofNat 8 (8 + content.length)) :=
    (List.prefix_append _ _).trans (List.prefix_append _ _)
  exact held.map_toNat fits (by decide)

/-- A table of control blocks at addresses of their own. Its entries are longer than the record in front of them, and
the record behind them is not. -/
structure BlockTable where
  leading : Bytes
  blocks : List ControlBlock
  trailing : Bytes
  longer : ∀ b ∈ blocks, 8 + leading.length < b.length
  closing : trailing.length ≤ leading.length
  distinct : (blocks.map ControlBlock.address).Nodup
  fits : 8 + leading.length + (blocks.flatMap ControlBlock.bytes).length + (8 + trailing.length) < Word.span

namespace BlockTable

variable (table : BlockTable)

def bytes : Bytes :=
  generation table.leading ++ (table.blocks.flatMap ControlBlock.bytes ++ generation table.trailing)

theorem length_lt {b : ControlBlock} (member : b ∈ table.blocks) : b.length < Word.span := by
  have part : b.length ≤ (table.blocks.flatMap ControlBlock.bytes).length := by
    rw [← b.length_bytes]
    exact (List.sublist_flatten_of_mem (List.mem_map_of_mem member)).length_le
  have fits := table.fits
  omega

/-- The states of a table are those of its blocks, the last one first. -/
theorem tcpStates_bytes :
    tcpStates table.bytes = .ok (table.blocks.map fun b => (b.address.toNat, b.state.toInt)).reverse := by
  have fits := table.fits
  have told : toldLength? table.bytes = some (8 + table.leading.length) := toldLength?_generation (by omega) _
  have trailing : toldLength? (generation table.trailing) = some (8 + table.trailing.length) := by
    rw [← List.append_nil (generation table.trailing)]
    exact toldLength?_generation (by omega) []
  have closing := table.closing
  have ends : EndsEntries (8 + table.leading.length) (generation table.trailing) := by
    intro length told
    rw [trailing] at told
    cases told
    exact .inl (by omega)
  have proper : ∀ b ∈ table.blocks, 8 + table.leading.length < b.length ∧ b.length < Word.span := fun b member =>
    ⟨table.longer b member, table.length_lt member⟩
  have cut : Entries (8 + table.leading.length) (table.bytes.drop (8 + table.leading.length))
      (table.blocks.map ControlBlock.bytes) (generation table.trailing) := by
    rw [bytes, ← length_generation, List.drop_left, length_generation]
    exact .blocks ends proper
  have inner : ∀ b ∈ table.blocks, 8 + b.inner + 160 < Word.span := fun b member => by
    have bounded := table.length_lt member
    rw [ControlBlock.length] at bounded
    omega
  have moderate : ¬Excessive (8 + table.leading.length) (8 + table.leading.length)
      (table.blocks.map ControlBlock.bytes) (generation table.trailing) := by
    have missing : missingLength (8 + table.leading.length) (generation table.trailing) = 0 := by
      rw [missingLength, trailing]
      exact if_neg (by omega)
    rintro (⟨entry, member, excess⟩ | excess)
    · obtain ⟨b, within, rfl⟩ := List.mem_map.mp member
      have bounded := inner b within
      rw [InnerOverflows, ControlBlock.innerLength_bytes (by omega)] at excess
      omega
    · rw [missing, ← List.flatMap_def] at excess
      omega
  have readings : (table.blocks.map ControlBlock.bytes).filterMap reading? =
      table.blocks.map fun b => (b.address.toNat, b.state.toInt) := by
    rw [List.filterMap_map, ← List.filterMap_eq_map]
    refine List.filterMap_congr fun b member => ControlBlock.reading?_bytes ?_
    have bounded := inner b member
    omega
  rw [← readings]
  exact ((tcpStates_of_entries told cut).resolve_left fun excess => moderate excess.1).2

end BlockTable

end HostProbe.FreeBSD
