import HostProbe.Linux
import HostProbe.Proofs.Footprint.Scanner
import HostProbe.Proofs.Text.Decimal
import HostProbe.Proofs.Text.Lines
import HostProbe.Proofs.Text.Utf8
import Mathlib.Algebra.GroupWithZero.Nat
import Mathlib.Data.List.Forall2

/-! Two readings of a process's mappings. One scans the bytes of the file and sums a few keys; the other cuts the text
into lines and makes a record of each mapping. The sums of the first are the sums over the records of the second. -/
namespace HostProbe.Smaps

open Footprint (Totals Querier)

/-! ### Files of mappings -/

/-- A column: no blanks in it, and no colon, which ends a key. -/
def IsWord (t : Text) : Prop := t ≠ [] ∧ ∀ c ∈ t, isBlank c = false ∧ c ≠ ':'

-- Over the letters of the word: a choice over every letter there is would be found first.
instance (t : Text) : Decidable (IsWord t) := @instDecidableAnd _ _ inferInstance (List.decidableBAll _ t)

structure Header where
  start : Text
  stop : Text
  permissions : Text
  offset : Text
  major : Text
  minor : Text
  inode : Text
  /-- What follows the blank behind the last column; it may hold anything that fits on a line. -/
  path : Option Text

namespace Header

def range (h : Header) : Text := h.start ++ '-' :: h.stop

def rest (h : Header) : Text :=
  h.permissions ++ ' ' :: (h.offset ++ ' ' :: (h.major ++ ':' :: (h.minor ++ ' ' :: (h.inode ++
    match h.path with
    | none => []
    | some path => ' ' :: path))))

def line (h : Header) : Text := h.range ++ ' ' :: h.rest

structure Sound (h : Header) : Prop where
  start : IsWord h.start
  stop : IsWord h.stop
  single : '\n' ∉ h.line

end Header

def amountKeys : List String :=
  ["Size", "Rss", "Pss", "Shared_Clean", "Shared_Dirty", "Private_Clean", "Private_Dirty", "Referenced", "Anonymous",
    "Swap"]

/-- A line below a header: an amount in kilobytes, padded on its left, or words. -/
inductive Field
  | amount (key : Text) (padding kilobytes : Nat)
  | words (key rest : Text)

namespace Field

def key : Field → Text
  | amount key .. => key
  | words key _ => key

def rest : Field → Text
  | amount _ padding kilobytes => List.replicate padding ' ' ++ (Nat.toDigits 10 kilobytes ++ ' ' :: "kB".toList)
  | words _ rest => rest

def line (f : Field) : Text := (f.key ++ [':']) ++ ' ' :: f.rest

def bytes (name : String) : Field → Nat
  | amount key _ kilobytes => if key = name.toList then kilobytes * 1024 else 0
  | words .. => 0

/-- Amounts fit a word; words stand under other keys than amounts do, and if they begin with a number, it is none that
would leave a word. -/
def Plain : Field → Prop
  | amount _ _ kilobytes => kilobytes * 1024 < Word.span
  | words key rest => String.ofList key ∉ amountKeys ∧ '\n' ∉ rest ∧
      ∀ n, (Text.words rest).head?.bind Integer.word? = some n → n * 1024 < Word.span

structure Sound (f : Field) : Prop where
  key : IsWord f.key
  plain : f.Plain

end Field

structure Mapping where
  header : Header
  fields : List Field

namespace Mapping

def lines (m : Mapping) : List Text := m.header.line :: m.fields.map Field.line

def bytes (name : String) (m : Mapping) : Nat := (m.fields.map (Field.bytes name)).sum

structure Sound (m : Mapping) : Prop where
  header : m.header.Sound
  fields : ∀ f ∈ m.fields, f.Sound
  distinct : (m.fields.map Field.key).Nodup

end Mapping

def ofLines (closed : Bool) : List Text → Text
  | [] => []
  | [line] => line ++ if closed then ['\n'] else []
  | line :: next :: others => line ++ '\n' :: ofLines closed (next :: others)

structure Document where
  mappings : List Mapping
  closed : Bool

namespace Document

def lines (d : Document) : List Text := d.mappings.flatMap Mapping.lines

def text (d : Document) : Text := ofLines d.closed d.lines

def bytes (name : String) (d : Document) : Nat := (d.mappings.map (Mapping.bytes name)).sum

/-- What the system writes: whole lines that a buffer can hold, some resident size, and sums that fit a word. A text
in memory is no longer than a signed word tells. -/
structure Sound (d : Document) : Prop where
  mappings : ∀ m ∈ d.mappings, m.Sound
  resident : ∃ m ∈ d.mappings, ∃ f ∈ m.fields, f.key = "Rss".toList
  short : ∀ line ∈ d.lines, (Utf8.encode line).length < Scanner.capacity
  rss : d.bytes "Rss" < Word.span
  pss : d.bytes "Pss" < Word.span
  unshared : d.bytes "Private_Clean" + d.bytes "Private_Dirty" < Word.span
  swap : d.bytes "Swap" < Word.span
  held : (Utf8.encode d.text).length < 1 <<< 63

end Document

/-! ### The sizes that both readings know -/

inductive Size
  | rss
  | pss
  | privateClean
  | privateDirty
  | swap
  deriving DecidableEq

namespace Size

def key : Size → String
  | rss => "Rss"
  | pss => "Pss"
  | privateClean => "Private_Clean"
  | privateDirty => "Private_Dirty"
  | swap => "Swap"

def inRecord : Size → MemoryMap → Nat
  | rss, m => m.rss
  | pss, m => m.pss
  | privateClean, m => m.privateClean
  | privateDirty, m => m.privateDirty
  | swap, m => m.swap

def inTotals : Size → Totals → Nat
  | rss, t => t.rss
  | pss, t => t.pss
  | privateClean, t => t.privateClean
  | privateDirty, t => t.privateDirty
  | swap, t => t.swap

theorem key_mem_amountKeys (size : Size) : size.key ∈ amountKeys := by
  cases size <;> decide

theorem inRecord_set (size : Size) (m : MemoryMap) (key : String) (bytes : Nat) :
    size.inRecord (Procfs.setMappingAmount m key bytes) = if key = size.key then bytes else size.inRecord m := by
  unfold Procfs.setMappingAmount
  split <;> cases size <;> simp_all [inRecord, Size.key]

end Size

theorem ofList_eq_iff (key : Text) (size : Size) : String.ofList key = size.key ↔ key = size.key.toList :=
  ⟨fun same => by rw [← same, String.toList_ofList], fun same => by rw [same, String.ofList_toList]⟩

/-! ### What a scan of the bytes adds up -/

/-- The scan cuts a line where its characters would be cut. -/
theorem splitField_encode (line : Text) : Footprint.splitField (Utf8.encode line) =
    let value := (line.dropWhile (· != ':')).dropWhile (Utf8.onChars fun b => !Footprint.isDigit b)
    if value.isEmpty then none else some (Utf8.encode (line.takeWhile (· != ':')), Utf8.encode value) := by
  have colon (b : UInt8) (high : 0x80 ≤ b.toNat) : b != 58 := by
    have other : b ≠ 58 := by
      rintro rfl
      exact absurd high (by decide)
    simpa using other
  have letter (b : UInt8) (high : 0x80 ≤ b.toNat) : !Footprint.isDigit b := by
    have above : ¬b ≤ 57 := by
      rw [UInt8.le_iff_toNat_le]
      exact Nat.not_le.mpr (Nat.lt_of_lt_of_le (by decide) high)
    simp [Footprint.isDigit, above]
  have atColon : Utf8.onChars (· != 58) = (· != ':') := Utf8.onChars_ne (d := ':') (by decide)
  simp only [Footprint.splitField, Utf8.takeWhile_encode colon, Utf8.dropWhile_encode colon,
    Utf8.dropWhile_encode letter, atColon, List.isEmpty_iff, Utf8.encode_eq_nil_iff]

/-- Sizes grow by the amount of a line under their key, and a resident size is seen. -/
structure Added (t next : Totals) (amount : Size → Nat) (resident : Bool) : Prop where
  sums : ∀ size : Size, size.inTotals next = size.inTotals t + amount size
  seen : next.sawRss = (t.sawRss || resident)

theorem Added.rfl (t : Totals) : Added t t (fun _ => 0) false := ⟨fun _ => Eq.refl _, by simp⟩

theorem Added.trans {t middle next : Totals} {first second : Size → Nat} {early late : Bool}
    (before : Added t middle first early) (after : Added middle next second late) :
    Added t next (fun size => first size + second size) (early || late) :=
  ⟨fun size => by rw [after.sums, before.sums, Nat.add_assoc], by rw [after.seen, before.seen, Bool.or_assoc]⟩

/-- A line under any other key adds nothing. -/
theorem observe_other {line key value : Bytes} (split : Footprint.splitField line = some (key, value))
    (other : ∀ size : Size, Utf8.toString key ≠ size.key) (t : Totals) : t.observe line = .ok t := by
  simp only [Totals.observe, split]
  split
  · exact absurd ‹_› (other .rss)
  · exact absurd ‹_› (other .pss)
  · exact absurd ‹_› (other .privateClean)
  · exact absurd ‹_› (other .privateDirty)
  · exact absurd ‹_› (other .swap)
  · exact congrArg Except.ok (if_neg (other .rss))

theorem observe_encode_other {line : Text} (other : ∀ size : Size, String.ofList (line.takeWhile (· != ':')) ≠ size.key)
    (t : Totals) : t.observe (Utf8.encode line) = .ok t := by
  have split := splitField_encode line
  simp only at split
  split at split
  · simp only [Totals.observe, split]
  · exact observe_other split (fun size => by simpa using other size) t

/-- An amount is added to the sum that its key has, if it has one. -/
theorem observe_amount {line key value : Text} {n : Nat}
    (split : Footprint.splitField (Utf8.encode line) = some (Utf8.encode key, Utf8.encode value))
    (number : Footprint.kilobytes? (Utf8.encode value) = some n) (fits : n * 1024 < Word.span) (t : Totals)
    (room : ∀ size : Size, String.ofList key = size.key → size.inTotals t + n * 1024 < Word.span) :
    ∃ next, t.observe (Utf8.encode line) = .ok next ∧
      Added t next (fun size => if String.ofList key = size.key then n * 1024 else 0)
        (String.ofList key = Size.rss.key) := by
  have amount : Word.mul n 1024 = .ok (n * 1024) := if_pos fits
  have plus (old : Nat) (within : old + n * 1024 < Word.span) :
      Word.add old (n * 1024) = .ok (old + n * 1024) := if_pos within
  by_cases known : ∃ size : Size, String.ofList key = size.key
  · obtain ⟨size, same⟩ := known
    have summed := plus (size.inTotals t) (room size same)
    simp only [Totals.observe, split, Utf8.toString_encode, number, amount, same]
    cases size
    all_goals
      refine ⟨_, congrArg (· >>= _) summed, fun other => ?_, ?_⟩
      · cases other <;> rfl
      · simp [Size.key]
  · have other (size : Size) : String.ofList key ≠ size.key := fun same => known ⟨size, same⟩
    refine ⟨t, observe_other split (fun size => by simpa using other size) t, fun size => ?_, ?_⟩
    · simp [other size]
    · simp [other .rss]

theorem takeWhile_key {key : Text} (word : IsWord key) (rest : Text) :
    ((key ++ [':']) ++ ' ' :: rest).takeWhile (· != ':') = key := by
  have kept : ∀ c ∈ key, (c != ':') = true := fun c member => by simpa using (word.2 c member).2
  rw [List.append_assoc, List.takeWhile_append_of_pos kept]
  simp

theorem dropWhile_key {key : Text} (word : IsWord key) (rest : Text) :
    ((key ++ [':']) ++ ' ' :: rest).dropWhile (· != ':') = ':' :: ' ' :: rest := by
  have kept : ∀ c ∈ key, (c != ':') = true := fun c member => by simpa using (word.2 c member).2
  rw [List.append_assoc, List.dropWhile_append_of_pos kept]
  simp

/-- A decimal digit, in the bytes, is a digit and no blank. -/
private theorem digit_of_mem {n : Nat} {c : Char} (member : c ∈ Nat.toDigits 10 n) :
    Utf8.onChars (fun b => !Footprint.isDigit b) c = false ∧
      Utf8.onChars (fun b => !Footprint.isAsciiBlank b) c = true := by
  have digit : c.isDigit := Nat.isDigit_of_mem_toDigits (by decide) (by decide) member
  have bounds : 48 ≤ c.toNat ∧ c.toNat ≤ 57 := by
    simpa [Char.isDigit, UInt32.le_iff_toNat_le] using digit
  have tested : ∀ n ≤ 57, 48 ≤ n →
      Footprint.isDigit (UInt8.ofNat n) = true ∧ Footprint.isAsciiBlank (UInt8.ofNat n) = false := by decide
  obtain ⟨isDigit, unblank⟩ := tested c.toNat bounds.2 bounds.1
  have short : ¬0x80 ≤ c.toNat := by omega
  simp [Utf8.onChars, short, isDigit, unblank]

/-- The number of an amount, found in the bytes behind its key. -/
theorem splitField_amount {key : Text} (word : IsWord key) (padding kilobytes : Nat) :
    Footprint.splitField (Utf8.encode (Field.amount key padding kilobytes).line) =
      some (Utf8.encode key, Utf8.encode (Nat.toDigits 10 kilobytes ++ ' ' :: "kB".toList)) := by
  obtain ⟨first, digits, shape⟩ := List.exists_cons_of_ne_nil (Nat.toDigits_ne_nil (n := kilobytes) (b := 10))
  have skipped : (':' :: ' ' :: (Field.amount key padding kilobytes).rest).dropWhile
      (Utf8.onChars fun b => !Footprint.isDigit b) = first :: (digits ++ ' ' :: "kB".toList) := by
    have blanks : ∀ c ∈ ':' :: ' ' :: List.replicate padding ' ',
        Utf8.onChars (fun b => !Footprint.isDigit b) c = true := by
      simp only [List.forall_mem_cons]
      refine ⟨by decide, by decide, fun c member => ?_⟩
      rw [List.eq_of_mem_replicate member]
      decide
    have digit := (digit_of_mem (n := kilobytes) (c := first) (by simp [shape])).1
    rw [Field.rest, ← List.cons_append, ← List.cons_append, List.dropWhile_append_of_pos blanks, shape]
    exact List.dropWhile_cons_of_neg (by simp [digit])
  have cut : (Field.amount key padding kilobytes).line.takeWhile (· != ':') = key := takeWhile_key word _
  have value : (Field.amount key padding kilobytes).line.dropWhile (· != ':') =
      ':' :: ' ' :: (Field.amount key padding kilobytes).rest := dropWhile_key word _
  rw [splitField_encode, cut, value, skipped, shape]
  rfl

theorem kilobytes?_amount {kilobytes : Nat} (fits : kilobytes * 1024 < Word.span) :
    Footprint.kilobytes? (Utf8.encode (Nat.toDigits 10 kilobytes ++ ' ' :: "kB".toList)) = some kilobytes := by
  have high (b : UInt8) (high : 0x80 ≤ b.toNat) : !Footprint.isAsciiBlank b := by
    have other (n : UInt8) (low : n.toNat < 0x80) : b ≠ n := by
      rintro rfl
      omega
    simp [Footprint.isAsciiBlank, other]
  rw [Footprint.kilobytes?, Utf8.takeWhile_encode high,
    List.takeWhile_append_of_pos fun c member => (digit_of_mem member).2,
    List.takeWhile_cons_of_neg (by decide), List.append_nil, Utf8.decode?_encode]
  exact Integer.word?_toDigits (by rw [Word.span] at fits; omega)

/-- A header adds nothing to any sum. -/
theorem observe_header {h : Header} (sound : h.Sound) (t : Totals) :
    t.observe (Utf8.encode h.line) = .ok t := by
  have kept : ∀ c ∈ h.start, (c != ':') = true := fun c member => by simpa using (sound.start.2 c member).2
  have dashed : '-' ∈ h.line.takeWhile (· != ':') := by
    rw [Header.line, Header.range, List.append_assoc, List.takeWhile_append_of_pos kept]
    simp
  refine observe_encode_other (fun size same => ?_) t
  have member : '-' ∈ size.key.toList := by
    rw [← same]
    simpa using dashed
  cases size <;> exact absurd member (by decide)

/-- A field adds its amount under its key. -/
theorem observe_field {f : Field} (sound : f.Sound) (t : Totals)
    (room : ∀ size : Size, size.inTotals t + f.bytes size.key < Word.span) :
    ∃ next, t.observe (Utf8.encode f.line) = .ok next ∧
      Added t next (fun size => f.bytes size.key) (f.key = Size.rss.key.toList) := by
  cases f with
  | amount key padding kilobytes =>
    have word : IsWord key := sound.key
    have fits : kilobytes * 1024 < Word.span := sound.plain
    obtain ⟨next, observed, added⟩ := observe_amount (splitField_amount word padding kilobytes)
      (kilobytes?_amount fits) fits t (fun size same => by
        have within := room size
        rwa [Field.bytes, if_pos ((ofList_eq_iff key size).mp same)] at within)
    simp only [ofList_eq_iff] at added
    exact ⟨next, observed, added⟩
  | words key rest =>
    have word : IsWord key := sound.key
    obtain ⟨unnamed, -, -⟩ := sound.plain
    have other (size : Size) : String.ofList key ≠ size.key := fun same =>
      unnamed (same ▸ size.key_mem_amountKeys)
    have cut : (Field.words key rest).line.takeWhile (· != ':') = key := takeWhile_key word rest
    have unseen : ¬key = Size.rss.key.toList := fun same => other .rss (by rw [same, String.ofList_toList])
    refine ⟨t, observe_encode_other (fun size => by rw [cut]; exact other size) t, fun size => rfl, ?_⟩
    simp [Field.key, unseen]

theorem observe_fields {fields : List Field} (sound : ∀ f ∈ fields, f.Sound) (t : Totals)
    (room : ∀ size : Size, size.inTotals t + (fields.map (Field.bytes size.key)).sum < Word.span) :
    ∃ next, ((fields.map Field.line).map Utf8.encode).foldlM Totals.observe t = .ok next ∧
      Added t next (fun size => (fields.map (Field.bytes size.key)).sum)
        (fields.any fun f => f.key = Size.rss.key.toList) := by
  induction fields generalizing t with
  | nil => exact ⟨t, rfl, .rfl t⟩
  | cons f fields ih =>
    simp only [List.map_cons, List.sum_cons] at room ⊢
    obtain ⟨middle, observed, first⟩ := observe_field (sound f List.mem_cons_self) t fun size =>
      Nat.lt_of_le_of_lt (Nat.add_le_add_left (Nat.le_add_right _ _) _) (room size)
    obtain ⟨next, others, added⟩ := ih (fun g member => sound g (List.mem_cons_of_mem f member)) middle fun size => by
      rw [first.sums, Nat.add_assoc]
      exact room size
    refine ⟨next, ?_, first.trans added⟩
    rw [List.foldlM_cons, observed]
    exact others

/-- Mappings add up under each key. -/
theorem observe_mappings {mappings : List Mapping} (sound : ∀ m ∈ mappings, m.Sound) (t : Totals)
    (room : ∀ size : Size, size.inTotals t + (mappings.map (Mapping.bytes size.key)).sum < Word.span) :
    ∃ next, ((mappings.flatMap Mapping.lines).map Utf8.encode).foldlM Totals.observe t = .ok next ∧
      Added t next (fun size => (mappings.map (Mapping.bytes size.key)).sum)
        (mappings.any fun m => m.fields.any fun f => f.key = Size.rss.key.toList) := by
  induction mappings generalizing t with
  | nil => exact ⟨t, rfl, .rfl t⟩
  | cons m mappings ih =>
    simp only [List.map_cons, List.sum_cons] at room ⊢
    have own := sound m List.mem_cons_self
    obtain ⟨middle, observed, first⟩ := observe_fields own.fields t fun size =>
      Nat.lt_of_le_of_lt (Nat.add_le_add_left (Nat.le_add_right _ _) _) (room size)
    obtain ⟨next, others, added⟩ := ih (fun g member => sound g (List.mem_cons_of_mem m member)) middle fun size => by
      rw [first.sums, Nat.add_assoc]
      exact room size
    refine ⟨next, ?_, first.trans added⟩
    rw [List.flatMap_cons, Mapping.lines, List.cons_append, List.map_cons, List.foldlM_cons, observe_header own.header,
      List.map_append]
    exact (List.foldlM_append ..).trans ((congrArg (· >>= _) observed).trans others)

/-! ### What the records hold -/

/-- A line as it is cut from the text: a carriage return at its end may be gone. -/
def Kept (line read : Text) : Prop := read = line ∨ read = Text.dropReturn line

/-- Lines are read as they were written, but for a carriage return at the end. -/
theorem lines_ofLines {lines : List Text} (single : ∀ line ∈ lines, '\n' ∉ line) (nonempty : ∀ line ∈ lines, line ≠ [])
    (closed : Bool) : List.Forall₂ Kept lines (Text.lines (ofLines closed lines)) := by
  induction lines with
  | nil => exact .nil
  | cons line others ih =>
    have own := single line List.mem_cons_self
    cases others with
    | nil =>
      cases closed with
      | false =>
        rw [ofLines, if_neg Bool.false_ne_true, List.append_nil, Text.lines_of_notMem own (nonempty line (by simp))]
        exact .cons (.inl rfl) .nil
      | true =>
        rw [ofLines, if_pos rfl, Text.lines_cons own, Text.lines_nil]
        exact .cons (.inr rfl) .nil
    | cons next others =>
      rw [ofLines, Text.lines_cons own]
      exact .cons (.inr rfl) (ih (fun l member => single l (List.mem_cons_of_mem line member))
        fun l member => nonempty l (List.mem_cons_of_mem line member))

/-- A header begins a record without sizes. -/
theorem readSmapsLine_header {h : Header} (sound : h.Sound) {read : Text} (kept : Kept h.line read)
    (maps : List MemoryMap) : ∃ record, Procfs.readSmapsLine maps read = .ok (record :: maps) ∧
      ∀ size : Size, size.inRecord record = 0 := by
  obtain ⟨rest, rfl⟩ : ∃ rest, read = h.range ++ ' ' :: rest := by
    rcases kept with whole | cut
    · exact ⟨_, whole⟩
    · exact ⟨_, cut.trans (Text.dropReturn_append_space _ _)⟩
  have column : ∀ c ∈ h.range, isBlank c = false ∧ c ≠ ':' := by
    simp only [Header.range, List.forall_mem_append, List.forall_mem_cons]
    exact ⟨sound.start.2, by decide, sound.stop.2⟩
  have nonempty : h.range ≠ [] := by simp [Header.range]
  have words := Text.words_cons (fun c member => (column c member).1) nonempty (c := ' ') (by decide) rest
  have noKey : h.range.getLast? ≠ some ':' := fun last => (column ':' (List.mem_of_getLast? last)).2 rfl
  refine ⟨Procfs.mappingOfHeader (h.range ++ ' ' :: rest) h.range, ?_, fun size => ?_⟩
  · simp only [Procfs.readSmapsLine, words]
    exact if_pos noKey
  · cases size <;> rfl

theorem keyedAmount_words {key : Text} (word : IsWord key) (rest : Text) :
    Procfs.keyedAmount ((key ++ [':']) ++ ' ' :: rest) = match Text.words rest with
      | [] => .ok none
      | value :: unit =>
        match Integer.word? value with
        | none => .ok none
        | some n => do
          let amount ← Word.mul n (if unit.head? = some "kB".toList then 1024 else 1)
          return some (key, amount) := by
  have split : Text.splitOnce ':' (key ++ ':' :: ' ' :: rest) = some (key, ' ' :: rest) :=
    Text.splitOnce_cons (fun member => (word.2 ':' member).2 rfl) _
  rw [List.append_assoc, Procfs.keyedAmount, List.singleton_append, split]
  have blank : Text.words (' ' :: rest) = Text.words rest := Text.words_blank (by decide) rest
  have trimmed : Text.trim key = key := Text.trim_of_unbroken fun c member => (word.2 c member).1
  cases fields : Text.words rest with
  | nil => simp only [blank, fields]
  | cons value unit =>
    cases number : Integer.word? value with
    | none => simp only [blank, fields, number]
    | some n => simp only [blank, trimmed, fields, number]

/-- A line with a key leaves its amount in the record of the mapping that was begun last. -/
theorem readSmapsLine_key {key : Text} (word : IsWord key) (rest : Text) (current : MemoryMap)
    (older : List MemoryMap) : Procfs.readSmapsLine (current :: older) ((key ++ [':']) ++ ' ' :: rest) =
      (Procfs.keyedAmount ((key ++ [':']) ++ ' ' :: rest)).map fun
        | none => current :: older
        | some (key, bytes) => Procfs.setMappingAmount current (String.ofList key) bytes :: older := by
  have unbroken : ∀ c ∈ key ++ [':'], isBlank c = false := by
    simp only [List.forall_mem_append, List.forall_mem_singleton]
    exact ⟨fun c member => (word.2 c member).1, by decide⟩
  have words := Text.words_cons unbroken (by simp) (c := ' ') (by decide) rest
  have colon : (key ++ [':']).getLast? = some ':' := by simp
  simp only [Procfs.readSmapsLine, words, colon, ne_eq, not_true_eq_false, if_false]
  cases Procfs.keyedAmount ((key ++ [':']) ++ ' ' :: rest) with
  | error fault => rfl
  | ok amount => cases amount <;> rfl

theorem words_amount (key : Text) (padding kilobytes : Nat) :
    Text.words (Field.amount key padding kilobytes).rest = [Nat.toDigits 10 kilobytes, "kB".toList] := by
  rw [Field.rest, Text.words_blanks, Text.words_cons (Integer.unbroken_toDigits kilobytes) Nat.toDigits_ne_nil (by decide)]
  rfl

/-- A field sets the size of its key in the record that was begun last. -/
theorem readSmapsLine_field {f : Field} (sound : f.Sound) {read : Text} (kept : Kept f.line read)
    (current : MemoryMap) (older : List MemoryMap) :
    ∃ record, Procfs.readSmapsLine (current :: older) read = .ok (record :: older) ∧ ∀ size : Size,
      size.inRecord record = if f.key = size.key.toList then f.bytes size.key else size.inRecord current := by
  obtain ⟨rest, rfl, same⟩ : ∃ rest, read = (f.key ++ [':']) ++ ' ' :: rest ∧ Text.words rest = Text.words f.rest := by
    rcases kept with whole | cut
    · exact ⟨_, whole, rfl⟩
    · exact ⟨_, cut.trans (Text.dropReturn_append_space _ _), Text.words_dropReturn _⟩
  rw [readSmapsLine_key sound.key, keyedAmount_words sound.key, same]
  cases f with
  | amount key padding kilobytes =>
    have fits : kilobytes * 1024 < Word.span := sound.plain
    have number : Integer.word? (Nat.toDigits 10 kilobytes) = some kilobytes :=
      Integer.word?_toDigits (by rw [Word.span] at fits; omega)
    have amount : Word.mul kilobytes 1024 = .ok (kilobytes * 1024) := if_pos fits
    rw [words_amount]
    simp only [number, List.head?_cons, if_true, amount]
    refine ⟨_, rfl, fun size => ?_⟩
    rw [Size.inRecord_set]
    simp only [ofList_eq_iff, Field.bytes]
    split
    · rw [if_pos ‹_›]
    · rfl
  | words key rest' =>
    obtain ⟨unnamed, -, fits⟩ := sound.plain
    have other (size : Size) : ¬String.ofList key = size.key := fun same => unnamed (same ▸ size.key_mem_amountKeys)
    have unlisted (size : Size) : (if key = size.key.toList then (Field.words key rest').bytes size.key
        else size.inRecord current) = size.inRecord current := if_neg (mt (ofList_eq_iff key size).mpr (other size))
    simp only [Field.rest, Field.key]
    cases first : Text.words rest' with
    | nil => exact ⟨current, rfl, fun size => (unlisted size).symm⟩
    | cons value unit =>
      cases number : Integer.word? value with
      | none =>
        simp only [number]
        exact ⟨current, rfl, fun size => (unlisted size).symm⟩
      | some n =>
        have bound : n * 1024 < Word.span := fits n (by simp [first, number])
        have within : n * (if unit.head? = some "kB".toList then 1024 else 1) < Word.span :=
          Nat.lt_of_le_of_lt (Nat.mul_le_mul_left n (by split <;> omega)) bound
        have amount : Word.mul n (if unit.head? = some "kB".toList then 1024 else 1) = .ok _ := if_pos within
        simp only [number, amount]
        refine ⟨_, rfl, fun size => ?_⟩
        rw [Size.inRecord_set, if_neg (other size)]
        exact (unlisted size).symm

theorem bytes_of_ne {f : Field} {name : String} (other : f.key ≠ name.toList) : f.bytes name = 0 := by
  cases f with
  | amount key padding kilobytes => exact if_neg other
  | words key rest => rfl

/-- Each field adds to the record of its mapping what no field before it has set. -/
theorem readSmapsLine_fields {fields : List Field} (sound : ∀ f ∈ fields, f.Sound)
    (distinct : (fields.map Field.key).Nodup) {reads : List Text}
    (kept : List.Forall₂ Kept (fields.map Field.line) reads) (current : MemoryMap) (older : List MemoryMap)
    (fresh : ∀ size : Size, size.key.toList ∈ fields.map Field.key → size.inRecord current = 0) :
    ∃ record, reads.foldlM Procfs.readSmapsLine (current :: older) = .ok (record :: older) ∧
      ∀ size : Size, size.inRecord record = size.inRecord current + (fields.map (Field.bytes size.key)).sum := by
  induction fields generalizing reads current with
  | nil =>
    cases kept
    exact ⟨current, rfl, fun _ => rfl⟩
  | cons f fields ih =>
    obtain ⟨read, reads, first, others, rfl⟩ := List.forall₂_cons_left_iff.mp kept
    obtain ⟨unique, distinct⟩ := List.nodup_cons.mp distinct
    obtain ⟨middle, set, sizes⟩ := readSmapsLine_field (sound f List.mem_cons_self) first current older
    have unset (size : Size) (later : size.key.toList ∈ fields.map Field.key) : size.inRecord middle = 0 := by
      rw [sizes size, if_neg (ne_of_mem_of_not_mem later unique).symm]
      exact fresh size (List.mem_cons_of_mem _ later)
    obtain ⟨record, rest, sums⟩ :=
      ih (fun g member => sound g (List.mem_cons_of_mem f member)) distinct others middle unset
    refine ⟨record, ?_, fun size => ?_⟩
    · rw [List.foldlM_cons, set]
      exact rest
    · rw [sums size, sizes size, List.map_cons, List.sum_cons]
      by_cases named : f.key = size.key.toList
      · rw [if_pos named, fresh size (named ▸ List.mem_cons_self), Nat.zero_add]
      · rw [if_neg named, bytes_of_ne named, Nat.zero_add]

/-- Each mapping is read into a record with its own sizes. -/
theorem readSmapsLine_mappings {mappings : List Mapping} (sound : ∀ m ∈ mappings, m.Sound) {reads : List Text}
    (kept : List.Forall₂ Kept (mappings.flatMap Mapping.lines) reads) (maps : List MemoryMap) :
    ∃ records : List MemoryMap, reads.foldlM Procfs.readSmapsLine maps = .ok (records.reverse ++ maps) ∧
      ∀ size : Size, (records.map size.inRecord).sum = (mappings.map (Mapping.bytes size.key)).sum := by
  induction mappings generalizing reads maps with
  | nil =>
    cases kept
    exact ⟨[], rfl, fun _ => rfl⟩
  | cons m mappings ih =>
    have own := sound m List.mem_cons_self
    rw [List.flatMap_cons] at kept
    have mine := List.forall₂_take m.lines.length kept
    have others := List.forall₂_drop m.lines.length kept
    rw [List.take_left] at mine
    rw [List.drop_left] at others
    rw [← List.take_append_drop m.lines.length reads, List.foldlM_append]
    obtain ⟨read, fields, first, below, split⟩ := List.forall₂_cons_left_iff.mp mine
    rw [split, List.foldlM_cons]
    obtain ⟨begun, header, zero⟩ := readSmapsLine_header own.header first maps
    obtain ⟨record, set, sums⟩ := readSmapsLine_fields own.fields own.distinct below begun maps fun size _ => zero size
    obtain ⟨records, rest, totals⟩ :=
      ih (fun g member => sound g (List.mem_cons_of_mem m member)) others (record :: maps)
    refine ⟨record :: records, ?_, fun size => ?_⟩
    · rw [header]
      refine (congrArg (· >>= _) set).trans (rest.trans ?_)
      rw [List.reverse_cons, List.append_assoc, List.singleton_append]
    · rw [List.map_cons, List.sum_cons, totals size, sums size, zero size, Nat.zero_add, List.map_cons, List.sum_cons]
      rfl

namespace Document

theorem single {d : Document} (sound : d.Sound) : ∀ line ∈ d.lines, '\n' ∉ line := by
  simp only [Document.lines, List.mem_flatMap, Mapping.lines, List.mem_cons, List.mem_map]
  rintro line ⟨m, member, rfl | ⟨f, field, rfl⟩⟩
  · exact (sound.mappings m member).header.single
  · have own := (sound.mappings m member).fields f field
    have key : '\n' ∉ f.key := fun inside => absurd (own.key.2 '\n' inside).1 (by decide)
    have rest : '\n' ∉ f.rest := by
      cases f with
      | amount key padding kilobytes =>
        have digits : '\n' ∉ Nat.toDigits 10 kilobytes := fun inside =>
          absurd (Nat.isDigit_of_mem_toDigits (by decide) (by decide) inside) (by decide)
        simp [Field.rest, digits]
      | words key rest => exact own.plain.2.1
    simp [Field.line, key, rest]

theorem long (d : Document) : ∀ line ∈ d.lines, 2 ≤ line.length := by
  simp only [Document.lines, List.mem_flatMap, Mapping.lines, List.mem_cons, List.mem_map]
  rintro line ⟨m, member, rfl | ⟨f, field, rfl⟩⟩
  · simp only [Header.line, Header.range, List.length_append, List.length_cons]
    omega
  · simp only [Field.line, List.length_append, List.length_cons]
    omega

theorem nonempty (d : Document) : ∀ line ∈ d.lines, line ≠ [] := fun line member empty => by
  have length := d.long line member
  simp [empty] at length

/-- A file of mappings is read whole, and its records hold what the fields say. -/
theorem parseSmaps_sums {d : Document} (sound : d.Sound) : ∃ maps, Procfs.parseSmaps d.text = .ok maps ∧
    ∀ size : Size, (maps.map size.inRecord).sum = d.bytes size.key := by
  obtain ⟨records, read, sums⟩ :=
    readSmapsLine_mappings sound.mappings (lines_ofLines (single sound) d.nonempty d.closed) []
  refine ⟨records, ?_, sums⟩
  have parsed : Procfs.parseSmaps d.text = .ok (records.reverse ++ []).reverse :=
    congrArg (· >>= fun maps => pure (List.reverse maps)) read
  rw [parsed, List.append_nil, List.reverse_reverse]

/-- What a scanner hands out are the lines that were written. -/
theorem linesOf_ofLines {lines : List Text} (single : ∀ line ∈ lines, '\n' ∉ line)
    (nonempty : ∀ line ∈ lines, line ≠ []) (closed : Bool) :
    Scanner.linesOf (Utf8.encode (ofLines closed lines)) = lines.map Utf8.encode := by
  induction lines with
  | nil => rfl
  | cons line others ih =>
    have own : 10 ∉ Utf8.encode line := Utf8.notMem_encode (c := '\n') (by decide) (single line List.mem_cons_self)
    cases others with
    | nil =>
      cases closed with
      | false =>
        have written : Utf8.encode line ≠ [] := mt Utf8.encode_eq_nil_iff.mp (nonempty line List.mem_cons_self)
        rw [ofLines, if_neg Bool.false_ne_true, List.append_nil, Scanner.linesOf_of_notMem own written]
        rfl
      | true =>
        rw [ofLines, if_pos rfl, Utf8.encode_append]
        exact Scanner.linesOf_cons own []
    | cons next others =>
      have newline : Utf8.encode ('\n' :: ofLines closed (next :: others)) =
          10 :: Utf8.encode (ofLines closed (next :: others)) := rfl
      rw [ofLines, Utf8.encode_append, newline, Scanner.linesOf_cons own,
        ih (fun l member => single l (List.mem_cons_of_mem line member))
          fun l member => nonempty l (List.mem_cons_of_mem line member)]
      rfl

theorem linesOf_text {d : Document} (sound : d.Sound) :
    Scanner.linesOf (Utf8.encode d.text) = d.lines.map Utf8.encode :=
  linesOf_ofLines (single sound) d.nonempty d.closed

theorem length_lines_le {lines : List Text} (long : ∀ line ∈ lines, 2 ≤ line.length) (closed : Bool) :
    2 * lines.length ≤ (ofLines closed lines).length := by
  induction lines with
  | nil => exact Nat.zero_le _
  | cons line others ih =>
    have own := long line List.mem_cons_self
    cases others with
    | nil =>
      simp only [ofLines, List.length_append, List.length_cons, List.length_nil]
      omega
    | cons next others =>
      have rest := ih fun l member => long l (List.mem_cons_of_mem line member)
      simp only [ofLines, List.length_append, List.length_cons] at rest ⊢
      omega

/-- No file has as many lines as the scan could count. -/
theorem lines_lt {d : Document} (sound : d.Sound) : d.lines.length < Footprint.lineLimit := by
  have lines := length_lines_le d.long d.closed
  have bytes : d.text.length ≤ (Utf8.encode d.text).length := Utf8.length_le_encode d.text
  have held := sound.held
  have limits : 1 <<< 63 = 2 * Footprint.lineLimit := by decide
  have text : (ofLines d.closed d.lines).length = d.text.length := rfl
  omega

/-- The scan's totals are what the fields say. -/
theorem observe_sums {d : Document} (sound : d.Sound) :
    ∃ t : Totals, (Scanner.linesOf (Utf8.encode d.text)).foldlM Totals.observe {} = .ok t ∧
      (∀ size : Size, size.inTotals t = d.bytes size.key) ∧ t.sawRss = true := by
  have room (size : Size) : size.inTotals {} + (d.mappings.map (Mapping.bytes size.key)).sum < Word.span := by
    have bound : d.bytes size.key < Word.span := by
      have unshared := sound.unshared
      cases size with
      | rss => exact sound.rss
      | pss => exact sound.pss
      | privateClean => exact Nat.lt_of_le_of_lt (Nat.le_add_right _ _) unshared
      | privateDirty => exact Nat.lt_of_le_of_lt (Nat.le_add_left _ _) unshared
      | swap => exact sound.swap
    cases size <;> exact (Nat.zero_add _).trans_lt bound
  obtain ⟨t, observed, added⟩ := observe_mappings sound.mappings {} room
  rw [linesOf_text sound]
  refine ⟨t, observed, fun size => ?_, ?_⟩
  · rw [added.sums]
    cases size <;> exact Nat.zero_add _
  · obtain ⟨m, member, f, field, key⟩ := sound.resident
    rw [added.seen]
    simp only [Bool.false_or, List.any_eq_true]
    exact ⟨m, member, f, field, decide_eq_true key⟩

end Document

end HostProbe.Smaps
