import HostProbe.Bytes
import HostProbe.Word
import Mathlib.Data.List.Infix
import Mathlib.Tactic.Ring

/-! Fields of binary records: numbers in a fixed number of octets, the least significant first, and what bytes hold at
an offset. A record that is put together from fields holds each of them behind those before it. -/
namespace HostProbe.Bytes

/-! ### Numbers -/

theorem toNat_lt (bytes : Bytes) : toNat bytes < 256 ^ bytes.length := by
  induction bytes with
  | nil => decide
  | cons b rest ih =>
    have octet : b.toNat < 256 := b.toNat_lt
    have next : toNat (b :: rest) = toNat rest * 256 + b.toNat := rfl
    rw [next, List.length_cons, Nat.pow_succ]
    omega

/-- A number of so many octets gives them back. -/
theorem ofNat_toNat (bytes : Bytes) : ofNat bytes.length (toNat bytes) = bytes := by
  induction bytes with
  | nil => rfl
  | cons b rest ih =>
    have octet : b.toNat < 256 := b.toNat_lt
    have next : toNat (b :: rest) = toNat rest * 256 + b.toNat := rfl
    have low : UInt8.ofNat (toNat rest * 256 + b.toNat) = b := by
      rw [← UInt8.toNat_inj, UInt8.toNat_ofNat']
      omega
    have high : (toNat rest * 256 + b.toNat) / 256 = toNat rest := by omega
    rw [next, List.length_cons, ofNat, low, high, ih]

theorem toNat_ofNat {size n : Nat} (fits : n < 256 ^ size) : toNat (ofNat size n) = n := by
  induction size generalizing n with
  | zero => exact (Nat.lt_one_iff.mp fits).symm
  | succ size ih =>
    have higher : n / 256 < 256 ^ size := Nat.div_lt_of_lt_mul (Nat.pow_succ' ▸ fits)
    have next : toNat (ofNat (size + 1) n) = toNat (ofNat size (n / 256)) * 256 + (UInt8.ofNat n).toNat := rfl
    rw [next, ih higher, UInt8.toNat_ofNat']
    omega

/-- Numbers of bytes one behind the other, the least significant first. -/
theorem toNat_append (low high : Bytes) : toNat (low ++ high) = toNat low + 256 ^ low.length * toNat high := by
  induction low with
  | nil =>
    rw [List.nil_append, List.length_nil, Nat.pow_zero, Nat.one_mul]
    exact (Nat.zero_add _).symm
  | cons b low ih =>
    have next (rest : Bytes) : toNat (b :: rest) = toNat rest * 256 + b.toNat := rfl
    rw [List.cons_append, next, next, ih, List.length_cons, Nat.pow_succ]
    ring

def ofInt32 (n : Int32) : Bytes := ofNat 4 n.toUInt32.toNat

/-- Any four bytes are those of a number. -/
theorem exists_ofInt32 {bytes : Bytes} (sized : bytes.length = 4) : ∃ n, ofInt32 n = bytes := by
  have fits : toNat bytes < 256 ^ 4 := by
    have bound := toNat_lt bytes
    rwa [sized] at bound
  refine ⟨(UInt32.ofNatLT (toNat bytes) fits).toInt32, ?_⟩
  rw [ofInt32, UInt32.toUInt32_toInt32, UInt32.toNat_ofNatLT, ← sized, ofNat_toNat]

def ofInt64 (n : Int64) : Bytes := ofNat 8 n.toUInt64.toNat

@[simp] theorem length_ofInt32 (n : Int32) : (ofInt32 n).length = 4 := length_ofNat 4 _

@[simp] theorem length_ofInt64 (n : Int64) : (ofInt64 n).length = 8 := length_ofNat 8 _

/-! ### What bytes hold -/

theorem forall_bne_zero {bytes : Bytes} (free : 0 ∉ bytes) : ∀ b ∈ bytes, (b != 0) = true := fun _ member =>
  bne_iff_ne.mpr (ne_of_mem_of_not_mem member free)

/-- The bytes have the field at the offset. -/
def HoldsAt (bytes : Bytes) (offset : Nat) (field : Bytes) : Prop := field <+: bytes.drop offset

instance (bytes : Bytes) (offset : Nat) (field : Bytes) : Decidable (HoldsAt bytes offset field) :=
  inferInstanceAs (Decidable (field <+: bytes.drop offset))

section holdsAt

variable {bytes field : Bytes} {offset : Nat}

/-- A record holds its fields one behind the other. -/
theorem holdsAt_flatten {fields : List Bytes} {sizes : List Nat} (sized : fields.map List.length = sizes) {i : Nat}
    (there : fields[i]? = some field) : HoldsAt fields.flatten (sizes.take i).sum field := by
  obtain ⟨within, rfl⟩ := List.getElem?_eq_some_iff.mp there
  have before : (fields.take i).flatten.length = (sizes.take i).sum := by
    rw [List.length_flatten, List.map_take, sized]
  have split : fields.flatten = (fields.take i).flatten ++ (fields[i] ++ (fields.drop (i + 1)).flatten) := by
    rw [← List.flatten_cons, ← List.drop_eq_getElem_cons within, ← List.flatten_append, List.take_append_drop]
  refine ⟨(fields.drop (i + 1)).flatten, ?_⟩
  rw [split, ← before, List.drop_left]

theorem holdsAt_flatMap {α : Type} {xs : List α} (f : α → Bytes) {i : Nat} (within : i < xs.length) :
    HoldsAt (xs.flatMap f) ((xs.take i).flatMap f).length (f xs[i]) := by
  have sized : ((xs.take i).flatMap f).length = (((xs.map f).map List.length).take i).sum := by
    rw [List.length_flatMap, List.map_map, ← List.map_take]
    rfl
  rw [sized, List.flatMap_def]
  exact holdsAt_flatten rfl (by rw [List.getElem?_map, List.getElem?_eq_getElem within, Option.map_some])

/-- A piece of the bytes holds what they hold within it. -/
theorem HoldsAt.within {inner size : Nat} (held : HoldsAt bytes (offset + inner) field)
    (inside : inner + field.length ≤ size) : HoldsAt ((bytes.drop offset).take size) inner field := by
  rw [HoldsAt, List.drop_take, List.drop_drop, List.prefix_take_iff]
  exact ⟨held, by omega⟩

/-- What stands before a field moves it. -/
theorem HoldsAt.behind (held : HoldsAt bytes offset field) (before : Bytes) :
    HoldsAt (before ++ bytes) (before.length + offset) field := by
  rw [HoldsAt, List.drop_append, Nat.add_sub_cancel_left, List.drop_eq_nil_of_le (Nat.le_add_right _ _)]
  exact held

/-- What stands behind a field does not matter. -/
theorem HoldsAt.append (held : HoldsAt bytes offset field) (rest : Bytes) : HoldsAt (bytes ++ rest) offset field := by
  rw [HoldsAt, List.drop_append]
  exact held.trans (List.prefix_append _ _)

theorem HoldsAt.take (held : HoldsAt bytes offset field) : (bytes.drop offset).take field.length = field :=
  (List.prefix_iff_eq_take.mp held).symm

theorem HoldsAt.length_le (held : HoldsAt bytes offset field) (nonempty : field ≠ []) :
    offset + field.length ≤ bytes.length := by
  have positive := List.length_pos_iff.mpr nonempty
  have short := List.IsPrefix.length_le held
  rw [List.length_drop] at short
  omega

theorem HoldsAt.slice? (held : HoldsAt bytes offset field) {size : Nat} (sized : field.length = size)
    (positive : 0 < size) : Bytes.slice? bytes offset size = some field := by
  have nonzero : size ≠ 0 := Nat.ne_of_gt positive
  have cut : (bytes.drop offset).take size = field := sized ▸ held.take
  simp only [Bytes.slice?, cut, sized, true_and, nonzero, ne_eq, not_false_eq_true, true_or, if_true]

theorem HoldsAt.natAt (held : HoldsAt bytes offset field) : Bytes.natAt bytes offset field.length = toNat field := by
  rw [Bytes.natAt, held.take]

theorem HoldsAt.natAt_ofNat {size n : Nat} (held : HoldsAt bytes offset (ofNat size n)) (fits : n < 256 ^ size) :
    Bytes.natAt bytes offset size = n := by
  have read := held.natAt
  rwa [length_ofNat, toNat_ofNat fits] at read

theorem HoldsAt.intAt_ofInt32 {n : Int32} (held : HoldsAt bytes offset (ofInt32 n)) :
    Bytes.intAt bytes offset 4 = n.toInt := by
  have fits : n.toUInt32.toNat < 256 ^ 4 := n.toUInt32.toNat_lt
  rw [Bytes.intAt, held.natAt_ofNat fits]
  exact (BitVec.toInt_eq_toNat_bmod n.toBitVec).symm

theorem HoldsAt.intAt_ofInt64 {n : Int64} (held : HoldsAt bytes offset (ofInt64 n)) :
    Bytes.intAt bytes offset 8 = n.toInt := by
  have fits : n.toUInt64.toNat < 256 ^ 8 := n.toUInt64.toNat_lt
  rw [Bytes.intAt, held.natAt_ofNat fits]
  exact (BitVec.toInt_eq_toNat_bmod n.toBitVec).symm

/-- Read as a number of 32 bits, a number of 64 bits is the one in its first half. -/
theorem toInt_natAt (bytes : Bytes) (offset : Nat) :
    Word.toInt 32 (Bytes.natAt bytes offset 8) = Bytes.intAt bytes offset 4 := by
  have halves : (bytes.drop offset).take 8 = (bytes.drop offset).take 4 ++ ((bytes.drop offset).drop 4).take 4 :=
    List.take_add (i := 4) (j := 4)
  rw [Word.toInt, Bytes.intAt, Bytes.natAt, Bytes.natAt, halves, toNat_append]
  rcases Nat.lt_or_ge (bytes.drop offset).length 4 with short | long
  · rw [List.drop_eq_nil_of_le (Nat.le_of_lt short)]
    rfl
  · rw [List.length_take_of_le long, Int.natCast_add, Int.natCast_mul]
    exact Int.add_mul_bmod_self_left _ (1 <<< 32) _

/-- A number that is cut out of the bytes first. -/
theorem HoldsAt.map_toNat {size n : Nat} (held : HoldsAt bytes offset (ofNat size n)) (fits : n < 256 ^ size)
    (positive : 0 < size) : (Bytes.slice? bytes offset size).map toNat = some n := by
  rw [held.slice? (length_ofNat size n) positive, Option.map_some, toNat_ofNat fits]

theorem HoldsAt.map_intAt {n : Int32} (held : HoldsAt bytes offset (ofInt32 n)) :
    ((Bytes.slice? bytes offset 4).map fun b => Bytes.intAt b 0 4) = some n.toInt := by
  have alone : HoldsAt (ofInt32 n) 0 (ofInt32 n) := List.prefix_rfl
  rw [held.slice? (length_ofInt32 n) (by decide), Option.map_some, alone.intAt_ofInt32]

end holdsAt

/-! ### Records -/

/-- The bytes have a record of so many bytes at an offset, with each of the fields at its place. What stands in
between does not matter. -/
def HoldsRecord (bytes : Bytes) (offset size : Nat) (fields : List (Nat × Bytes)) : Prop :=
  offset + size ≤ bytes.length ∧ ∀ field ∈ fields, HoldsAt bytes (offset + field.1) field.2

instance (bytes : Bytes) (offset size : Nat) (fields : List (Nat × Bytes)) :
    Decidable (HoldsRecord bytes offset size fields) := inferInstanceAs (Decidable (_ ∧ _))

/-- A field that lies within its record is found in the record's bytes. -/
theorem HoldsRecord.held {bytes : Bytes} {offset size : Nat} {fields : List (Nat × Bytes)}
    (record : HoldsRecord bytes offset size fields) (inside : ∀ field ∈ fields, field.1 + field.2.length ≤ size)
    {i place : Nat} {field : Bytes} (there : fields[i]? = some (place, field)) :
    HoldsAt ((bytes.drop offset).take size) place field :=
  have member := List.mem_of_getElem? there
  (record.2 _ member).within (inside _ member)

def layOut (size : Nat) (fields : List (Nat × Bytes)) : Bytes :=
  fields.foldl (fun bytes field => bytes.take field.1 ++ field.2 ++ bytes.drop (field.1 + field.2.length))
    (List.replicate size 0)

/-! ### Cuts -/

theorem length_of_slice? {bytes field : Bytes} {offset size : Nat} (read : slice? bytes offset size = some field) :
    field.length = size := by
  rw [slice?, Option.ite_none_right_eq_some] at read
  obtain ⟨⟨whole, -⟩, cut⟩ := read
  exact Option.some.inj cut ▸ whole

/-- A range is cut out of the bytes just if it ends within them. -/
theorem slice?_eq (bytes : Bytes) (offset size : Nat) : slice? bytes offset size =
    if offset + size ≤ bytes.length then some ((bytes.drop offset).take size) else none := by
  have cut : ((bytes.drop offset).take size).length = min size (bytes.length - offset) := by
    rw [List.length_take, List.length_drop]
  rw [slice?]
  exact if_congr (by omega) rfl rfl

theorem slice?_eq_none {bytes : Bytes} {offset size : Nat} (short : bytes.length < offset + size) :
    slice? bytes offset size = none := by
  rw [slice?_eq, if_neg (Nat.not_le.mpr short)]

theorem natAt_lt (bytes : Bytes) (offset size : Nat) : natAt bytes offset size < 256 ^ size :=
  Nat.lt_of_lt_of_le (toNat_lt _) (Nat.pow_le_pow_right (by decide) (List.length_take_le _ _))

theorem natAt_drop (bytes : Bytes) (start offset size : Nat) :
    natAt (bytes.drop start) offset size = natAt bytes (start + offset) size := by
  rw [natAt, natAt, List.drop_drop]

theorem natAt_take {bytes : Bytes} {offset size length : Nat} (within : offset + size ≤ length) :
    natAt (bytes.take length) offset size = natAt bytes offset size := by
  rw [natAt, natAt, List.drop_take, List.take_take, Nat.min_eq_left (by omega)]

/-- A single byte is cut out just if it is there. -/
theorem slice?_one (bytes : Bytes) (offset : Nat) : slice? bytes offset 1 = bytes[offset]?.map ([·]) := by
  rw [slice?_eq]
  by_cases within : offset < bytes.length
  · rw [if_pos (Nat.succ_le_of_lt within), List.getElem?_eq_getElem within, List.drop_eq_getElem_cons within]
    rfl
  · rw [if_neg (by omega), List.getElem?_eq_none (Nat.not_lt.mp within)]
    rfl

theorem toNat_singleton (b : UInt8) : toNat [b] = b.toNat := by
  have single : toNat [b] = 0 * 256 + b.toNat := rfl
  rw [single, Nat.zero_mul, Nat.zero_add]

theorem natAt_one {bytes : Bytes} {offset : Nat} (within : offset < bytes.length) :
    natAt bytes offset 1 = bytes[offset].toNat := by
  rw [natAt, List.drop_eq_getElem_cons within]
  exact toNat_singleton _

/-! ### Pieces of one size -/

/-- Records that are read one by one are the consecutive pieces. -/
private theorem records_go (size n : Nat) (rest : Bytes) (found : List Bytes) : records.go size n rest found =
    found.reverse ++ (List.range n).map fun i => (rest.drop (i * size)).take size := by
  induction n generalizing rest found with
  | zero => exact (List.append_nil _).symm
  | succ n ih =>
    have later (i : Nat) : rest.drop ((i + 1) * size) = (rest.drop size).drop (i * size) := by
      rw [List.drop_drop, Nat.succ_mul, Nat.add_comm]
    rw [records.go, ih, List.range_succ_eq_map, List.map_cons, List.map_map, List.reverse_cons, List.append_assoc,
      Nat.zero_mul, List.drop_zero]
    exact congrArg (found.reverse ++ rest.take size :: ·) (List.map_congr_left fun i _ => by
      rw [Function.comp_apply, later])

theorem records_eq {size : Nat} (positive : 0 < size) (bytes : Bytes) : records size bytes =
    (List.range (bytes.length / size)).map fun i => (bytes.drop (i * size)).take size := by
  rw [records, if_neg (Nat.ne_of_gt positive), records_go]
  rfl

theorem records_of_short {size : Nat} {bytes : Bytes} (short : bytes.length < size) : records size bytes = [] := by
  rw [records_eq (Nat.zero_lt_of_lt short), Nat.div_eq_of_lt short]
  rfl

theorem records_of_whole {size : Nat} {bytes : Bytes} (positive : 0 < size) (whole : size ≤ bytes.length) :
    records size bytes = bytes.take size :: records size (bytes.drop size) := by
  have one : bytes.length / size = (bytes.drop size).length / size + 1 := by
    rw [List.length_drop, ← Nat.add_div_right _ positive, Nat.sub_add_cancel whole]
  rw [records, records, if_neg (Nat.ne_of_gt positive), if_neg (Nat.ne_of_gt positive), one, records.go, records_go,
    records_go]
  rfl

end HostProbe.Bytes
