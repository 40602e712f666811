import HostProbe.FreeBSD.Records
import HostProbe.Proofs.BSD.SocketAddresses

/-! Tables of a process's descriptors. Records of sizes of their own stand one behind the other, each with its size in
front. -/
namespace HostProbe.FreeBSD

open BSD (Stores)
open Bytes (HoldsAt)

/-! ### Framing -/

namespace FileRecord

/-- Size told by the record in front. Bytes too few for a size tell none, which counts as zero. -/
def told (bytes : Bytes) : Int := FileRecord.int ⟨bytes⟩ 0

/-- The records of a table, of which the last may be cut by the end of the bytes. -/
inductive Splits : Bytes → List FileRecord → Prop
  | ended {rest : Bytes} (none : told rest ≤ 0) : Splits rest []
  | record {rest : Bytes} {behind : List FileRecord} (more : 0 < told rest)
      (others : Splits (rest.drop (told rest).toNat) behind) : Splits rest (⟨rest.take (told rest).toNat⟩ :: behind)

private theorem go_succ (fuel : Nat) (rest : Bytes) (found : List FileRecord) :
    split.go (fuel + 1) rest found = if told rest ≤ 0 then found.reverse
      else split.go fuel (rest.drop (told rest).toNat) (⟨rest.take (told rest).toNat⟩ :: found) := by
  cases read : Bytes.slice? rest 0 4 with
  | none =>
    have size : told rest = 0 := by rw [told, int, read, Option.map_none, Option.getD_none]
    rw [split.go, read, size, if_pos (Int.le_refl 0)]
  | some field =>
    have size : told rest = Bytes.intAt field 0 4 := by rw [told, int, read, Option.map_some, Option.getD_some]
    rw [split.go, read, size]

theorem told_nil : told [] = 0 := rfl

theorem length_drop_lt {rest : Bytes} (more : 0 < told rest) :
    (rest.drop (told rest).toNat).length < rest.length := by
  have nonempty : rest.length ≠ 0 := fun empty => by
    rw [List.length_eq_zero_iff.mp empty, told_nil] at more
    exact absurd more (Int.lt_irrefl 0)
  rw [List.length_drop]
  omega

/-- Reading goes from record to record as the sizes tell. -/
private theorem Splits.go_eq {rest : Bytes} {records : List FileRecord} (splits : Splits rest records) {fuel : Nat}
    (enough : rest.length ≤ fuel) (found : List FileRecord) :
    split.go fuel rest found = found.reverse ++ records := by
  induction splits generalizing fuel found with
  | ended none =>
    rw [List.append_nil]
    cases fuel with
    | zero => rfl
    | succ fuel => rw [go_succ, if_pos none]
  | record more others ih =>
    have shorter := length_drop_lt more
    cases fuel with
    | zero => omega
    | succ fuel =>
      rw [go_succ, if_neg (Int.not_le.mpr more), ih (by omega), List.reverse_cons, List.append_assoc,
        List.singleton_append]

theorem exists_splits (bytes : Bytes) : ∃ records, Splits bytes records := by
  induction size : bytes.length using Nat.strong_induction_on generalizing bytes with
  | h n ih =>
    by_cases none : told bytes ≤ 0
    · exact ⟨[], .ended none⟩
    · have more := Int.not_le.mp none
      obtain ⟨behind, others⟩ := ih _ (size ▸ length_drop_lt more) _ rfl
      exact ⟨_, .record more others⟩

theorem splits_iff {bytes : Bytes} {records : List FileRecord} : Splits bytes records ↔ split bytes = records := by
  have read {records : List FileRecord} (splits : Splits bytes records) : split bytes = records :=
    splits.go_eq (Nat.le_refl _) []
  refine ⟨read, ?_⟩
  rintro rfl
  obtain ⟨records, splits⟩ := exists_splits bytes
  rwa [read splits]

/-- Records are consecutive and none is empty; what is left tells no size. -/
theorem Splits.consecutive {bytes : Bytes} {records : List FileRecord} (splits : Splits bytes records) :
    ∃ rest, bytes = (records.map FileRecord.bytes).flatten ++ rest ∧ (∀ r ∈ records, r.bytes ≠ []) ∧ told rest ≤ 0 := by
  induction splits with
  | @ended rest none => exact ⟨rest, rfl, nofun, none⟩
  | @record start behind more others ih =>
    obtain ⟨rest, split, nonempty, ended⟩ := ih
    have taken : start.take (told start).toNat ≠ [] := fun empty => by
      rcases List.take_eq_nil_iff.mp empty with zero | nothing
      · omega
      · rw [nothing, told_nil] at more
        exact absurd more (Int.lt_irrefl 0)
    refine ⟨rest, ?_, List.forall_mem_cons.mpr ⟨taken, nonempty⟩, ended⟩
    rw [List.map_cons, List.flatten_cons, List.append_assoc, ← split, List.take_append_drop]

theorem int_of_holdsAt {bytes : Bytes} {offset : Nat} {n : Int32} (held : HoldsAt bytes offset (Bytes.ofInt32 n)) :
    FileRecord.int ⟨bytes⟩ offset = n.toInt := by
  rw [int, held.map_intAt, Option.getD_some]

/-- A record that tells its own size is the first one of its table, whatever stands behind it. -/
theorem Splits.selfSized {record behind : Bytes} {records : List FileRecord}
    (sized : HoldsAt record 0 (Bytes.ofInt32 (Int32.ofNat record.length))) (fits : record.length < 2 ^ 31)
    (others : Splits behind records) : Splits (record ++ behind) (⟨record⟩ :: records) := by
  have size : told (record ++ behind) = record.length := by
    rw [told, int_of_holdsAt (sized.append behind), Int32.toInt_ofNat_of_lt fits]
  have positive := sized.length_le (List.cons_ne_nil _ _)
  rw [Bytes.length_ofInt32] at positive
  have more : 0 < told (record ++ behind) := by omega
  have taken : (record ++ behind).take (told (record ++ behind)).toNat = record := by
    rw [size, Int.toNat_natCast, List.take_left]
  have left : (record ++ behind).drop (told (record ++ behind)).toNat = behind := by
    rw [size, Int.toNat_natCast, List.drop_left]
  have splits := Splits.record more (left.symm ▸ others)
  rwa [taken] at splits

end FileRecord

/-! ### Records of descriptors -/

inductive SocketFamily
  | inet
  | inet6
  | unix
  deriving Repr, DecidableEq

namespace SocketFamily

def number : SocketFamily → Int32
  | inet => 2
  | inet6 => 28
  | unix => 1

def set : SocketFamily → FamilySet
  | inet => .inet
  | inet6 => .inet6
  | unix => .unix

def bit : SocketFamily → Nat
  | inet => 0
  | inet6 => 1
  | unix => 2

theorem contains_set (families : FamilySet) (family : SocketFamily) :
    families.contains family.set = families.bits.toNat.testBit family.bit := by
  have every : ∀ bits : Fin 256, ∀ family ∈ [inet, inet6, unix],
      bitsContain (UInt8.ofFin bits) family.set.bits = (UInt8.ofFin bits).toNat.testBit family.bit := by decide +kernel
  exact every families.bits.toFin family (by cases family <;> decide)

theorem familyOf?_number (family : SocketFamily) :
    BSD.familyOf? FreeBSD.inet6 family.number.toInt = some family.set := by cases family <;> decide

end SocketFamily

inductive SocketKind
  | stream
  | datagram
  | seqPacket
  deriving Repr, DecidableEq

namespace SocketKind

def number : SocketKind → Int32
  | stream => 1
  | datagram => 2
  | seqPacket => 5

def set : SocketKind → SocketTypeSet
  | stream => .stream
  | datagram => .datagram
  | seqPacket => .seqPacket

def bit : SocketKind → Nat
  | stream => 0
  | datagram => 1
  | seqPacket => 2

theorem contains_set (types : SocketTypeSet) (kind : SocketKind) :
    types.contains kind.set = types.bits.toNat.testBit kind.bit := by
  have every : ∀ bits : Fin 256, ∀ kind ∈ [stream, datagram, seqPacket],
      bitsContain (UInt8.ofFin bits) kind.set.bits = (UInt8.ofFin bits).toNat.testBit kind.bit := by decide +kernel
  exact every types.bits.toFin kind (by cases kind <;> decide)

theorem socketTypeOf?_number (kind : SocketKind) : BSD.socketTypeOf? kind.number.toInt = some kind.set := by
  cases kind <;> decide

end SocketKind

/-- A descriptor of a socket, with the bytes of its record that stand for neither its number nor its socket. The
addresses need not be of the socket's family. -/
structure SocketDescriptor where
  number : Int32
  family : SocketFamily
  kind : SocketKind
  localEnd : Address
  remoteEnd : Address
  /-- Address of the socket's control block in the kernel. -/
  controlBlock : UInt64
  localStorage : Vector UInt8 128
  remoteStorage : Vector UInt8 128
  status : Vector UInt8 24
  protocol : Vector UInt8 4
  rest : Bytes
  numbered : 0 ≤ number
  localStored : Stores 28 localStorage.toList localEnd
  remoteStored : Stores 28 remoteStorage.toList remoteEnd
  fits : 312 + rest.length < 2 ^ 31

namespace SocketDescriptor

variable (s : SocketDescriptor)

/-- Fields of the record: its size, the type of a socket, and what is told of the descriptor and the socket. -/
def fields : List Bytes :=
  [Bytes.ofInt32 (Int32.ofNat (312 + s.rest.length)), Bytes.ofInt32 2, Bytes.ofInt32 s.number, s.status.toList,
    Bytes.ofInt32 s.family.number, Bytes.ofInt32 s.kind.number, s.protocol.toList, s.localStorage.toList,
    s.remoteStorage.toList, Bytes.ofNat 8 s.controlBlock.toNat, s.rest]

def bytes : Bytes := s.fields.flatten

theorem sized : s.fields.map List.length = [4, 4, 4, 24, 4, 4, 4, 128, 128, 8, s.rest.length] := by
  simp [fields, Bytes.length_ofNat]

theorem length_bytes : s.bytes.length = 312 + s.rest.length := by
  rw [bytes, List.length_flatten, s.sized]
  simp only [List.sum_cons, List.sum_nil]
  omega

theorem fd_eq : FileRecord.fd ⟨s.bytes⟩ = s.number.toInt :=
  FileRecord.int_of_holdsAt (Bytes.holdsAt_flatten s.sized (i := 2) rfl)

theorem type_eq : FileRecord.int ⟨s.bytes⟩ 4 = 2 :=
  FileRecord.int_of_holdsAt (Bytes.holdsAt_flatten s.sized (i := 1) rfl)

theorem family_eq : FileRecord.int ⟨s.bytes⟩ 36 = s.family.number.toInt :=
  FileRecord.int_of_holdsAt (Bytes.holdsAt_flatten s.sized (i := 4) rfl)

theorem kind_eq : FileRecord.int ⟨s.bytes⟩ 40 = s.kind.number.toInt :=
  FileRecord.int_of_holdsAt (Bytes.holdsAt_flatten s.sized (i := 5) rfl)

theorem localStorage_eq : FileRecord.socketAddress ⟨s.bytes⟩ 48 = s.localStorage.toList := by
  have held : HoldsAt s.bytes 48 s.localStorage.toList := Bytes.holdsAt_flatten s.sized (i := 7) rfl
  rw [FileRecord.socketAddress, ← held.take, Vector.length_toList]

theorem remoteStorage_eq : FileRecord.socketAddress ⟨s.bytes⟩ 176 = s.remoteStorage.toList := by
  have held : HoldsAt s.bytes 176 s.remoteStorage.toList := Bytes.holdsAt_flatten s.sized (i := 8) rfl
  rw [FileRecord.socketAddress, ← held.take, Vector.length_toList]

theorem controlBlock?_eq : FileRecord.controlBlock? ⟨s.bytes⟩ = some s.controlBlock.toNat := by
  have held : HoldsAt s.bytes 304 (Bytes.ofNat 8 s.controlBlock.toNat) := Bytes.holdsAt_flatten s.sized (i := 9) rfl
  exact held.map_toNat s.controlBlock.toNat_lt (by decide)

theorem selfSized : HoldsAt s.bytes 0 (Bytes.ofInt32 (Int32.ofNat s.bytes.length)) := by
  rw [length_bytes]
  exact Bytes.holdsAt_flatten s.sized (i := 0) rfl

end SocketDescriptor

structure OtherDescriptor where
  number : Int32
  type : Int32
  rest : Bytes
  other : number < 0 ∨ type ≠ 2
  fits : 12 + rest.length < 2 ^ 31

namespace OtherDescriptor

variable (o : OtherDescriptor)

def fields : List Bytes :=
  [Bytes.ofInt32 (Int32.ofNat (12 + o.rest.length)), Bytes.ofInt32 o.type, Bytes.ofInt32 o.number, o.rest]

def bytes : Bytes := o.fields.flatten

theorem sized : o.fields.map List.length = [4, 4, 4, o.rest.length] := by simp [fields]

theorem length_bytes : o.bytes.length = 12 + o.rest.length := by
  rw [bytes, List.length_flatten, o.sized]
  simp only [List.sum_cons, List.sum_nil]
  omega

theorem fd_eq : FileRecord.fd ⟨o.bytes⟩ = o.number.toInt :=
  FileRecord.int_of_holdsAt (Bytes.holdsAt_flatten o.sized (i := 2) rfl)

theorem type_eq : FileRecord.int ⟨o.bytes⟩ 4 = o.type.toInt :=
  FileRecord.int_of_holdsAt (Bytes.holdsAt_flatten o.sized (i := 1) rfl)

theorem selfSized : HoldsAt o.bytes 0 (Bytes.ofInt32 (Int32.ofNat o.bytes.length)) := by
  rw [length_bytes]
  exact Bytes.holdsAt_flatten o.sized (i := 0) rfl

end OtherDescriptor

inductive Descriptor
  | socket (s : SocketDescriptor)
  | other (o : OtherDescriptor)

namespace Descriptor

def bytes : Descriptor → Bytes
  | socket s => s.bytes
  | other o => o.bytes

def socket? : Descriptor → Option SocketDescriptor
  | socket s => some s
  | other _ => none

/-- The table of descriptors is cut into their records. -/
theorem splits (descriptors : List Descriptor) :
    FileRecord.Splits (descriptors.flatMap bytes) (descriptors.map fun d => ⟨d.bytes⟩) := by
  induction descriptors with
  | nil => exact .ended (Int.le_refl 0)
  | cons d others ih =>
    rw [List.flatMap_cons, List.map_cons]
    cases d with
    | socket s => exact .selfSized s.selfSized (s.length_bytes ▸ s.fits) ih
    | other o => exact .selfSized o.selfSized (o.length_bytes ▸ o.fits) ih

end Descriptor
end HostProbe.FreeBSD
