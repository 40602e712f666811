import HostProbe.OpenBSD.Records
import HostProbe.Proofs.Blocks
import HostProbe.Proofs.Overflow.Slices

/-! Vectors of strings as the kernel hands them out: pointers up to a null one, and behind them the strings. A pointer
is the address of a byte of the same block, wherever the block lies, so strings may lie in any order and be shared. -/
namespace HostProbe.OpenBSD

open Bytes (HoldsAt loadWithin? loadWithin?_eq)

/-! ### Layout -/

/-- The bytes that lie at an address begin with pointers to the strings and a null pointer. Each string lies behind
these, and a zero byte ends it. -/
structure HoldsVector (bytes : Bytes) (address : Nat) (strings : List String) : Prop where
  bounded : address + bytes.length ≤ Word.span
  free : ∀ s ∈ strings, '\x00' ∉ s.toList
  told : ∀ i (within : i < strings.length), ∃ offset, (strings.length + 1) * 8 ≤ offset ∧
    HoldsAt bytes (i * 8) (Bytes.ofNat 8 (address + offset)) ∧
    HoldsAt bytes offset (Utf8.encode strings[i].toList ++ [0])
  ended : HoldsAt bytes (strings.length * 8) (Bytes.ofNat 8 0)

def placeOf (kept : List String) (i : Nat) : Nat := (block (kept.take i)).length

/-- Pointers to some of the strings that are kept from an address on. -/
def pointersTo (first : Nat) (kept : List String) (picks : List (Fin kept.length)) : Bytes :=
  picks.flatMap fun (i : Fin kept.length) => Bytes.ofNat 8 (first + placeOf kept i)

/-- The block that lies at an address, with the strings that are kept behind the pointers to some of them. -/
def vectorBlock (address : Nat) (kept : List String) (picks : List (Fin kept.length)) : Bytes :=
  pointersTo (address + (picks.length + 1) * 8) kept picks ++ Bytes.ofNat 8 0 ++ block kept

section vectorBlock

variable {address : Nat} {kept : List String} {picks : List (Fin kept.length)}

theorem length_pointersTo (first : Nat) : (pointersTo first kept picks).length = picks.length * 8 := by
  induction picks with
  | nil => rfl
  | cons i picks ih =>
    rw [pointersTo, List.flatMap_cons, List.length_append, Bytes.length_ofNat, List.length_cons, Nat.succ_mul,
      Nat.add_comm]
    exact congrArg (· + 8) ih

theorem holdsAt_pointersTo (first : Nat) {i : Nat} (within : i < picks.length) :
    HoldsAt (pointersTo first kept picks) (i * 8) (Bytes.ofNat 8 (first + placeOf kept picks[i])) := by
  have before : (pointersTo first kept (picks.take i)).length = i * 8 := by
    rw [length_pointersTo, List.length_take_of_le (Nat.le_of_lt within)]
  exact before ▸ Bytes.holdsAt_flatMap _ within

/-- A vector of pointers to kept strings holds the strings they point to. -/
theorem holdsVector_vectorBlock (free : ∀ s ∈ kept, '\x00' ∉ s.toList)
    (bounded : address + (vectorBlock address kept picks).length ≤ Word.span) :
    HoldsVector (vectorBlock address kept picks) address (picks.map (kept[·])) := by
  have count : (picks.map (kept[·])).length = picks.length := List.length_map _
  refine ⟨bounded, fun s member => ?_, fun i within => ?_, ?_⟩
  · obtain ⟨i, -, rfl⟩ := List.mem_map.mp member
    exact free _ (List.getElem_mem i.isLt)
  · rw [count] at within ⊢
    have pointer : HoldsAt (pointersTo (address + (picks.length + 1) * 8) kept picks) (i * 8) _ :=
      holdsAt_pointersTo _ within
    rw [Nat.add_assoc] at pointer
    have there : HoldsAt (block kept) (placeOf kept picks[i]) (Utf8.encode kept[picks[i]].toList ++ [0]) :=
      Bytes.holdsAt_flatMap _ picks[i].isLt
    have behind := there.behind (pointersTo (address + (picks.length + 1) * 8) kept picks ++ Bytes.ofNat 8 0)
    rw [List.length_append, length_pointersTo, Bytes.length_ofNat, ← Nat.succ_mul] at behind
    refine ⟨(picks.length + 1) * 8 + placeOf kept picks[i], Nat.le_add_right _ _, (pointer.append _).append _, ?_⟩
    rw [List.getElem_map]
    exact behind
  · have null : HoldsAt (Bytes.ofNat 8 0) 0 (Bytes.ofNat 8 0) := List.prefix_rfl
    have behind := null.behind (pointersTo (address + (picks.length + 1) * 8) kept picks)
    rw [length_pointersTo, Nat.add_zero] at behind
    rw [count]
    exact behind.append _

end vectorBlock

/-! ### The walk over the pointers -/

/-- The word is the address of one of the block's bytes, and not null. -/
def PointsInto (block : Reply) (pointer : Nat) : Prop :=
  pointer ≠ 0 ∧ block.address ≤ pointer ∧ pointer < block.address + block.bytes.length

instance (block : Reply) (pointer : Nat) : Decidable (PointsInto block pointer) := inferInstanceAs (Decidable (_ ∧ _))

def words (bytes : Bytes) : List Nat := (Bytes.records 8 bytes).map Bytes.toNat

/-- The string at an address within the block, which ends with the block if no zero byte ends it. -/
def stringFrom (block : Reply) (pointer : Nat) : String := Bytes.cString (block.bytes.drop (pointer - block.address))

def stringsFrom (block : Reply) (pointers : List Nat) : List String :=
  (pointers.takeWhile (PointsInto block ·)).map (stringFrom block)

section walk

variable {block : Reply} {rest : Bytes} {pointer : Nat}

theorem words_of_short (short : rest.length < 8) : words rest = [] := by
  rw [words, Bytes.records_of_short short, List.map_nil]

theorem words_of_whole (whole : 8 ≤ rest.length) :
    words rest = Bytes.toNat (rest.take 8) :: words (rest.drop 8) := by
  rw [words, Bytes.records_of_whole (by decide) whole, List.map_cons]
  rfl

theorem words_eq (bytes : Bytes) :
    words bytes = (List.range (bytes.length / 8)).map fun i => Bytes.natAt bytes (i * 8) 8 := by
  rw [words, Bytes.records_eq (by decide), List.map_map]
  rfl

theorem stringsFrom_cons_of_pointsInto (into : PointsInto block pointer) (pointers : List Nat) :
    stringsFrom block (pointer :: pointers) = stringFrom block pointer :: stringsFrom block pointers := by
  rw [stringsFrom, List.takeWhile_cons_of_pos (by simpa using into), List.map_cons, stringsFrom]

theorem stringsFrom_cons_of_not (outside : ¬PointsInto block pointer) (pointers : List Nat) :
    stringsFrom block (pointer :: pointers) = [] := by
  rw [stringsFrom, List.takeWhile_cons_of_neg (by simpa using outside), List.map_nil]

theorem leads_out_iff :
    (pointer = 0 || pointer < block.address || pointer - block.address ≥ block.bytes.length) = true ↔
      ¬PointsInto block pointer := by
  rw [PointsInto, Bool.or_eq_true, Bool.or_eq_true, decide_eq_true_iff, decide_eq_true_iff, decide_eq_true_iff]
  omega

private theorem go_eq {fuel : Nat} (enough : rest.length ≤ fuel) (found : List String) :
    stringsOfBlock.go block fuel rest found = found.reverse ++ stringsFrom block (words rest) := by
  induction fuel generalizing rest found with
  | zero =>
    have short : rest.length < 8 := by omega
    rw [words_of_short short]
    exact (List.append_nil _).symm
  | succ fuel ih =>
    rw [stringsOfBlock.go, Bytes.slice?_eq, Nat.zero_add, List.drop_zero]
    by_cases whole : 8 ≤ rest.length
    · have next : (rest.drop 8).length ≤ fuel := by
        rw [List.length_drop]
        omega
      rw [if_pos whole, words_of_whole whole]
      change (if (_ || _ || _) = true then _ else _) = _
      by_cases into : PointsInto block (Bytes.toNat (rest.take 8))
      · rw [if_neg (mt leads_out_iff.mp (not_not_intro into)), ih next, stringsFrom_cons_of_pointsInto into,
          List.reverse_cons, List.append_assoc]
        rfl
      · rw [if_pos (leads_out_iff.mpr into), stringsFrom_cons_of_not into, List.append_nil]
    · rw [if_neg whole, words_of_short (Nat.not_le.mp whole)]
      exact (List.append_nil _).symm

theorem stringsOfBlock_eq (block : Reply) : stringsOfBlock block = stringsFrom block (words block.bytes) :=
  go_eq (Nat.le_refl _) []

end walk

/-! ### Reading strings back -/

theorem cString_drop {bytes : Bytes} {offset : Nat} {s : String} (free : '\x00' ∉ s.toList)
    (held : HoldsAt bytes offset (Utf8.encode s.toList ++ [0])) : Bytes.cString (bytes.drop offset) = s := by
  obtain ⟨rest, split⟩ := held
  have nonzero := Bytes.forall_bne_zero (Utf8.zero_notMem_encode free)
  rw [← split, List.append_assoc, List.singleton_append, Bytes.cString, Bytes.untilNul,
    List.takeWhile_append_of_pos nonzero, List.takeWhile_cons_of_neg (by decide), List.append_nil,
    Utf8.toString_encode, String.ofList_toList]

private theorem takeWhile_map_range {α : Type} {p : α → Bool} {f : Nat → α} {n m : Nat} (within : n < m)
    (passed : ∀ i < n, p (f i)) (stopped : ¬p (f n)) :
    ((List.range m).map f).takeWhile p = (List.range n).map f := by
  obtain ⟨more, rfl⟩ := Nat.exists_eq_add_of_lt within
  rw [Nat.add_assoc, List.range_add, List.range_succ_eq_map, List.map_append, List.takeWhile_append_of_pos,
    List.map_cons, List.map_cons, Nat.add_zero, List.takeWhile_cons_of_neg stopped, List.append_nil]
  intro a member
  obtain ⟨i, below, rfl⟩ := List.mem_map.mp member
  exact passed i (List.mem_range.mp below)

namespace HoldsVector

variable {bytes : Bytes} {address : Nat} {strings : List String}

/-- Each pointer of the vector leads to its string. -/
theorem pointsInto (holds : HoldsVector bytes address strings) {i : Nat} (within : i < strings.length) :
    PointsInto ⟨bytes, address⟩ (Bytes.natAt bytes (i * 8) 8) ∧
      stringFrom ⟨bytes, address⟩ (Bytes.natAt bytes (i * 8) 8) = strings[i] := by
  obtain ⟨offset, behind, pointer, there⟩ := holds.told i within
  have inside := there.length_le (List.append_ne_nil_of_right_ne_nil _ (List.cons_ne_nil 0 []))
  have bounded : address + bytes.length ≤ 256 ^ 8 := holds.bounded
  rw [List.length_append, List.length_singleton] at inside
  have within : offset < bytes.length := by omega
  rw [pointer.natAt_ofNat (by omega), PointsInto, stringFrom, Nat.add_sub_cancel_left]
  refine ⟨⟨by omega, Nat.le_add_right _ _, Nat.add_lt_add_left within _⟩, ?_⟩
  exact cString_drop (holds.free _ (List.getElem_mem _)) there

/-- The strings of a vector are read back. -/
theorem stringsOfBlock_eq (holds : HoldsVector bytes address strings) : stringsOfBlock ⟨bytes, address⟩ = strings := by
  have null : Bytes.natAt bytes (strings.length * 8) 8 = 0 := holds.ended.natAt_ofNat (by decide)
  have room := holds.ended.length_le (by decide)
  rw [Bytes.length_ofNat] at room
  have within : strings.length < bytes.length / 8 := by omega
  rw [OpenBSD.stringsOfBlock_eq, words_eq, stringsFrom, takeWhile_map_range within, List.map_map]
  · refine List.ext_getElem (by rw [List.length_map, List.length_range]) fun i _ within => ?_
    rw [List.getElem_map, List.getElem_range]
    exact (holds.pointsInto within).2
  · exact fun i within => decide_eq_true (holds.pointsInto within).1
  · rw [null, decide_eq_true_iff]
    exact fun into => into.1 rfl

end HoldsVector

/-! ### The walk in machine words -/

def loadString? (block : Reply) (pointer : Nat) : Outcome (Option String) :=
  match Word.sub pointer block.address with
  | .error _ => return none
  | .ok start => do
    if block.bytes.length ≤ start then return none
    return some (← Bytes.loadText (← Bytes.between block.bytes start block.bytes.length))

def loadStrings (block : Reply) : Nat → Nat → List String → Outcome (List String)
  | 0, _, _ => Outcome.abort
  | steps + 1, slot, found => do
    match ← loadWithin? block.bytes (← Word.mul slot 8) 8 with
    | none => return found.reverse
    | some field =>
      if Bytes.toNat field = 0 then return found.reverse
      let slot ← Word.add slot 1
      match ← loadString? block (Bytes.toNat field) with
      | none => return found.reverse
      | some string => loadStrings block steps slot (string :: found)

section loading

variable {block : Reply}

/-- Following a pointer never leaves the block. -/
theorem loadString?_eq {pointer : Nat} (nonzero : pointer ≠ 0) : loadString? block pointer =
    .ok (if PointsInto block pointer then some (stringFrom block pointer) else none) := by
  rw [loadString?, Word.sub]
  by_cases above : block.address ≤ pointer
  · have into : PointsInto block pointer ↔ ¬block.bytes.length ≤ pointer - block.address := by
      rw [PointsInto]
      omega
    rw [if_pos above]
    by_cases within : block.bytes.length ≤ pointer - block.address
    · rw [if_neg (mt into.mp (not_not_intro within))]
      exact if_pos within
    · have cut := Bytes.between_length (Nat.le_of_not_le within)
      simp only [if_neg within, if_pos (into.mpr within), Outcome.bind_of_ok cut, Bytes.loadText_eq]
      rfl
  · have outside : ¬PointsInto block pointer := fun into => above into.2.1
    rw [if_neg above, if_neg outside]
    rfl

/-- From any slot that is reached, the steps suffice, and what is found is what the words from there on point to. -/
theorem loadStrings_eq (word : block.bytes.length < Word.span) {steps slot : Nat}
    (reached : slot * 8 ≤ block.bytes.length) (enough : block.bytes.length < (slot + steps) * 8)
    (found : List String) : loadStrings block steps slot found =
      .ok (found.reverse ++ stringsFrom block (words (block.bytes.drop (slot * 8)))) := by
  have span : Word.span = 2 ^ 64 := rfl
  induction steps generalizing slot found with
  | zero => exact absurd enough (Nat.not_lt.mpr reached)
  | succ steps ih =>
    rw [loadStrings, Outcome.bind_of_ok (Word.mul_of_lt (by omega)), loadWithin?_eq (by omega)]
    -- Only a whole word leads to another step, and there are no more of them than steps.
    by_cases whole : slot * 8 + 8 ≤ block.bytes.length
    · have rest : 8 ≤ (block.bytes.drop (slot * 8)).length := by
        rw [List.length_drop]
        omega
      rw [if_pos whole, words_of_whole rest, List.drop_drop, ← Nat.succ_mul]
      change (if Bytes.toNat ((block.bytes.drop (slot * 8)).take 8) = 0 then return found.reverse else _) = _
      generalize Bytes.toNat ((block.bytes.drop (slot * 8)).take 8) = pointer
      by_cases null : pointer = 0
      · rw [if_pos null, stringsFrom_cons_of_not fun into => into.1 null, List.append_nil]
        rfl
      rw [if_neg null, Outcome.bind_of_ok (Word.add_of_lt (by omega)), Outcome.bind_of_ok (loadString?_eq null)]
      by_cases into : PointsInto block pointer
      · have further : (slot + 1) * 8 ≤ block.bytes.length := by omega
        have onward := ih further (by omega) (stringFrom block pointer :: found)
        rw [List.reverse_cons, List.append_assoc] at onward
        rw [if_pos into, stringsFrom_cons_of_pointsInto into]
        exact onward
      · rw [if_neg into, stringsFrom_cons_of_not into, List.append_nil]
        rfl
    · rw [if_neg whole, words_of_short (by rw [List.length_drop]; omega)]
      exact congrArg Except.ok (List.append_nil _).symm

end loading

/-- Strings are read back from the vector that holds them, in its order, wherever the block lies. Whatever a block is,
the walk goes over its whole words up to the first that is null or no address of its bytes, and lists the strings there.
It ends, and no read leaves a block whose length is a word. -/
theorem argumentVector_read (bytes : Bytes) (address : Nat) :
    (∀ strings, HoldsVector bytes address strings → stringsOfBlock ⟨bytes, address⟩ = strings) ∧
      stringsOfBlock ⟨bytes, address⟩ =
        ((words bytes).takeWhile (PointsInto ⟨bytes, address⟩ ·)).map (stringFrom ⟨bytes, address⟩) ∧
      (bytes.length < Word.span → loadStrings ⟨bytes, address⟩ (bytes.length / 8 + 1) 0 [] =
        .ok (stringsOfBlock ⟨bytes, address⟩)) := by
  refine ⟨fun strings holds => holds.stringsOfBlock_eq, stringsOfBlock_eq _, fun word => ?_⟩
  have enough : bytes.length < (0 + (bytes.length / 8 + 1)) * 8 := by omega
  rw [stringsOfBlock_eq]
  exact loadStrings_eq word (Nat.zero_le _) enough []

/-- Arguments at an address: three strings are kept, the last is the first argument, and the first is two others. -/
def listArguments : Bytes :=
  vectorBlock 0x10000 ["-l", "étui", "ls"] [⟨2, by decide⟩, ⟨0, by decide⟩, ⟨0, by decide⟩]

theorem holdsVector_listArguments : HoldsVector listArguments 0x10000 ["ls", "-l", "-l"] :=
  holdsVector_vectorBlock (by decide) (by decide)

/-- Three pointers, two of them to one string. -/
theorem argumentVector_read_listArguments :
    HoldsVector listArguments 0x10000 ["ls", "-l", "-l"] ∧
      stringsOfBlock ⟨listArguments, 0x10000⟩ = ["ls", "-l", "-l"] ∧ listArguments.length < Word.span ∧
      loadStrings ⟨listArguments, 0x10000⟩ (listArguments.length / 8 + 1) 0 [] =
        .ok (stringsOfBlock ⟨listArguments, 0x10000⟩) := by
  have short : listArguments.length < Word.span := by decide
  obtain ⟨reads, -, walks⟩ := argumentVector_read listArguments 0x10000
  exact ⟨holdsVector_listArguments, reads _ holdsVector_listArguments, short, walks short⟩

end HostProbe.OpenBSD
