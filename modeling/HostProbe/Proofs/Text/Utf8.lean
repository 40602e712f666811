import HostProbe.Text.Utf8
import Mathlib.Data.List.TakeWhile

/-! Text and its UTF-8 form. Decoding what was encoded gives the text back, and bytes of the ASCII range stand for
their own characters only, so a search for one may be made in the bytes or in the text. -/
namespace HostProbe.Utf8

/-! ### The round trip -/

/-- A byte within the bounds that the state waits for. -/
private theorem step_inside {left : Nat} {low high : UInt8} {value part : Nat} {decoded : List (Option Char)}
    (small : part < 64) (above : low.toNat ≤ 0x80 + part) (below : 0x80 + part ≤ high.toNat) :
    Progress.step ⟨.inside left low high value, decoded⟩ (UInt8.ofNat (0x80 + part)) =
      if left ≤ 1 then ⟨.boundary, some (Char.ofNat (value * 64 + part)) :: decoded⟩
      else ⟨.inside (left - 1) 0x80 0xBF (value * 64 + part), decoded⟩ := by
  have byte : (UInt8.ofNat (0x80 + part)).toNat = 0x80 + part := by
    rw [UInt8.toNat_ofNat']
    omega
  have within : low ≤ UInt8.ofNat (0x80 + part) ∧ UInt8.ofNat (0x80 + part) ≤ high := by
    rw [UInt8.le_iff_toNat_le, UInt8.le_iff_toNat_le, byte]
    exact ⟨above, below⟩
  simp only [Progress.step, if_pos within, byte, Nat.add_sub_cancel_left]

/-- A byte after the second. -/
private theorem step_tail {left value part : Nat} {decoded : List (Option Char)} (small : part < 64) :
    Progress.step ⟨.inside left 0x80 0xBF value, decoded⟩ (UInt8.ofNat (0x80 + part)) =
      if left ≤ 1 then ⟨.boundary, some (Char.ofNat (value * 64 + part)) :: decoded⟩
      else ⟨.inside (left - 1) 0x80 0xBF (value * 64 + part), decoded⟩ :=
  step_inside small (Nat.le_add_right _ _) (Nat.add_le_add_left (Nat.le_of_lt_succ small) _)

/-! What the first byte of two, of three and of four says about the next; its bounds leave out longer forms than
needed, surrogates, and what is past the last character. -/

private theorem lead_two : ∀ a < 32, 2 ≤ a → lead (UInt8.ofNat (0xC0 + a)) = some (.inr (.inside 1 0x80 0xBF a)) := by
  decide

private theorem lead_three : ∀ a < 16, lead (UInt8.ofNat (0xE0 + a)) =
    some (.inr (.inside 2 (if a = 0 then 0xA0 else 0x80) (if a = 13 then 0x9F else 0xBF) a)) := by
  decide

private theorem lead_four : ∀ a < 5, lead (UInt8.ofNat (0xF0 + a)) =
    some (.inr (.inside 3 (if a = 0 then 0x90 else 0x80) (if a = 4 then 0x8F else 0xBF) a)) := by
  decide

private theorem step_lead {b : UInt8} {state : State} (leads : lead b = some (.inr state))
    (decoded : List (Option Char)) : Progress.step ⟨.boundary, decoded⟩ b = ⟨state, decoded⟩ := by
  simp only [Progress.step, Progress.begin, leads]

/-- Decoding the bytes of a character from a boundary gives that character. -/
theorem foldl_encodeChar (c : Char) (decoded : List (Option Char)) :
    (encodeChar c).foldl Progress.step ⟨.boundary, decoded⟩ = ⟨.boundary, some c :: decoded⟩ := by
  have valid : c.toNat < 0xD800 ∨ 0xDFFF < c.toNat ∧ c.toNat < 0x110000 := c.valid
  have back : Char.ofNat c.toNat = c := Char.ofNat_toNat c
  unfold encodeChar
  generalize c.toNat = n at valid back
  simp only [Nat.shiftRight_eq_div_pow, Nat.mul_zero, Nat.mul_one, Nat.pow_zero, Nat.div_one, Nat.reduceMul,
    Nat.reducePow]
  have part (m : Nat) : m % 64 < 64 := Nat.mod_lt m (by decide)
  split
  case isTrue one =>
    have byte : (UInt8.ofNat n).toNat = n := by
      rw [UInt8.toNat_ofNat']
      omega
    have leads : lead (UInt8.ofNat n) = some (.inl c) := by
      rw [lead, byte, if_pos one, back]
    simp only [List.foldl_cons, List.foldl_nil, Progress.step, Progress.begin, leads]
  split
  case isTrue two =>
    have value : n / 64 * 64 + n % 64 = n := by omega
    rw [List.foldl_cons, List.foldl_cons, step_lead (lead_two (n / 64) (by omega) (by omega)),
      step_tail (part _)]
    simp only [List.foldl_nil, Nat.le_refl, if_true, value, back]
  split
  case isTrue three =>
    have value : (n / 4096 * 64 + n / 64 % 64) * 64 + n % 64 = n := by omega
    have above : (if n / 4096 = 0 then 0xA0 else 0x80 : UInt8).toNat ≤ 0x80 + n / 64 % 64 := by
      split
      · simp only [UInt8.reduceToNat]
        omega
      · simp only [UInt8.reduceToNat]
        omega
    have below : 0x80 + n / 64 % 64 ≤ (if n / 4096 = 13 then 0x9F else 0xBF : UInt8).toNat := by
      split
      · simp only [UInt8.reduceToNat]
        omega
      · simp only [UInt8.reduceToNat]
        omega
    rw [List.foldl_cons, List.foldl_cons, List.foldl_cons, step_lead (lead_three (n / 4096) (by omega)),
      step_inside (part _) above below]
    simp only [Nat.reduceLeDiff, if_false, Nat.reduceSub]
    rw [step_tail (part _)]
    simp only [List.foldl_nil, Nat.le_refl, if_true, value, back]
  case isFalse four =>
    have value : ((n / 262144 * 64 + n / 4096 % 64) * 64 + n / 64 % 64) * 64 + n % 64 = n := by omega
    have above : (if n / 262144 = 0 then 0x90 else 0x80 : UInt8).toNat ≤ 0x80 + n / 4096 % 64 := by
      split
      · simp only [UInt8.reduceToNat]
        omega
      · simp only [UInt8.reduceToNat]
        omega
    have below : 0x80 + n / 4096 % 64 ≤ (if n / 262144 = 4 then 0x8F else 0xBF : UInt8).toNat := by
      split
      · simp only [UInt8.reduceToNat]
        omega
      · simp only [UInt8.reduceToNat]
        omega
    rw [List.foldl_cons, List.foldl_cons, List.foldl_cons, List.foldl_cons,
      step_lead (lead_four (n / 262144) (by omega)), step_inside (part _) above below]
    simp only [Nat.reduceLeDiff, if_false, Nat.reduceSub]
    rw [step_tail (part _)]
    simp only [Nat.reduceLeDiff, if_false, Nat.reduceSub]
    rw [step_tail (part _)]
    simp only [List.foldl_nil, Nat.le_refl, if_true, value, back]

theorem foldl_encode (t : Text) (decoded : List (Option Char)) :
    (encode t).foldl Progress.step ⟨.boundary, decoded⟩ = ⟨.boundary, (t.map some).reverse ++ decoded⟩ := by
  induction t generalizing decoded with
  | nil => rfl
  | cons c t ih =>
    rw [encode, List.flatMap_cons, List.foldl_append, foldl_encodeChar]
    exact (ih _).trans (by simp)

@[simp] theorem decodeParts_encode (t : Text) : decodeParts (encode t) = t.map some := by
  rw [decodeParts]
  have ended := foldl_encode t []
  rw [ended]
  simp [Progress.finish]

@[simp] theorem decodeLossy_encode (t : Text) : decodeLossy (encode t) = t := by
  rw [decodeLossy, decodeParts_encode, List.map_map]
  exact List.map_id t

@[simp] theorem decode?_encode (t : Text) : decode? (encode t) = some t := by
  simp [decode?, Function.comp_def]

@[simp] theorem toString_encode (t : Text) : toString (encode t) = String.ofList t := by
  rw [toString, decodeLossy_encode]

/-! ### Cutting bytes and cutting text -/

theorem encode_append (t u : Text) : encode (t ++ u) = encode t ++ encode u := List.flatMap_append

theorem encode_cons (c : Char) (t : Text) : encode (c :: t) = encodeChar c ++ encode t := rfl

theorem encodeChar_of_lt {c : Char} (ascii : c.toNat < 0x80) : encodeChar c = [UInt8.ofNat c.toNat] := if_pos ascii

private theorem le_toNat_ofNat {n : Nat} (low : 0x80 ≤ n) (fits : n < 0x100) : 0x80 ≤ (UInt8.ofNat n).toNat := by
  rw [UInt8.toNat_ofNat']
  omega

/-- No byte of a longer form looks like a character of its own. -/
theorem le_of_mem_encodeChar {c : Char} (long : 0x80 ≤ c.toNat) : ∀ b ∈ encodeChar c, 0x80 ≤ b.toNat := by
  have bound : c.toNat < 0x110000 := by
    have valid : c.toNat < 0xD800 ∨ 0xDFFF < c.toNat ∧ c.toNat < 0x110000 := c.valid
    omega
  have tail (k : Nat) : 0x80 ≤ (UInt8.ofNat (0x80 + (c.toNat >>> (6 * k)) % 64)).toNat :=
    le_toNat_ofNat (Nat.le_add_right _ _) (by omega)
  rw [encodeChar, if_neg (Nat.not_lt.mpr long)]
  split
  · rw [List.forall_mem_cons, List.forall_mem_singleton]
    exact ⟨le_toNat_ofNat (by omega) (by omega), tail 0⟩
  split
  · rw [List.forall_mem_cons, List.forall_mem_cons, List.forall_mem_singleton]
    exact ⟨le_toNat_ofNat (by omega) (by omega), tail 1, tail 0⟩
  · rw [List.forall_mem_cons, List.forall_mem_cons, List.forall_mem_cons, List.forall_mem_singleton]
    exact ⟨le_toNat_ofNat (by omega) (by omega), tail 2, tail 1, tail 0⟩

/-- A character of ASCII is found in the bytes only if it is in the text. -/
theorem notMem_encode {c : Char} (ascii : c.toNat < 0x80) {t : Text} (absent : c ∉ t) :
    UInt8.ofNat c.toNat ∉ encode t := by
  have byte : (UInt8.ofNat c.toNat).toNat = c.toNat := by
    rw [UInt8.toNat_ofNat']
    omega
  rw [encode, List.mem_flatMap]
  rintro ⟨d, member, found⟩
  rcases Nat.lt_or_ge d.toNat 0x80 with short | long
  · rw [encodeChar_of_lt short, List.mem_singleton] at found
    have same : c.toNat = d.toNat := by
      rw [← byte, found, UInt8.toNat_ofNat']
      omega
    rw [Char.toNat_inj.mp same] at absent
    exact absent member
  · have high := le_of_mem_encodeChar long _ found
    omega

theorem zero_notMem_encode {t : Text} (free : '\x00' ∉ t) : 0 ∉ encode t := notMem_encode (by decide) free

/-- A test of bytes as a test of characters, passed by those outside the ASCII range. -/
def onChars (p : UInt8 → Bool) (c : Char) : Bool := 0x80 ≤ c.toNat || p (UInt8.ofNat c.toNat)

theorem onChars_ne {d : Char} (ascii : d.toNat < 0x80) : onChars (· != UInt8.ofNat d.toNat) = (· != d) := by
  funext c
  rcases Nat.lt_or_ge c.toNat 0x80 with short | long
  · have same : UInt8.ofNat c.toNat = UInt8.ofNat d.toNat ↔ c = d := by
      rw [← UInt8.toNat_inj, UInt8.toNat_ofNat', UInt8.toNat_ofNat', ← Char.toNat_inj]
      omega
    rw [onChars, decide_eq_false (Nat.not_le.mpr short), Bool.false_or, Bool.eq_iff_iff]
    simp [same]
  · have other : c ≠ d := by
      rintro rfl
      omega
    simp [onChars, long, other]

theorem encodeChar_ne_nil (c : Char) : encodeChar c ≠ [] := fun empty => by
  have decoded := foldl_encodeChar c []
  rw [empty] at decoded
  cases decoded

@[simp] theorem encode_eq_nil_iff {t : Text} : encode t = [] ↔ t = [] := by
  cases t with
  | nil => simp [encode]
  | cons c t => simp [encode_cons, encodeChar_ne_nil]

theorem length_le_encode (t : Text) : t.length ≤ (encode t).length := by
  induction t with
  | nil => exact Nat.zero_le _
  | cons c t ih =>
    have written := List.length_pos_iff.mpr (encodeChar_ne_nil c)
    rw [encode_cons, List.length_append, List.length_cons]
    omega

/-- A byte of the ASCII range in front is the first character. -/
theorem exists_cons_of_encode {t : Text} {b : UInt8} {tail : Bytes} (bytes : encode t = b :: tail)
    (ascii : b.toNat < 0x80) : ∃ c rest, t = c :: rest ∧ c.toNat = b.toNat ∧ encode rest = tail := by
  cases t with
  | nil => cases bytes
  | cons c rest =>
    rw [encode_cons] at bytes
    rcases Nat.lt_or_ge c.toNat 0x80 with short | long
    · rw [encodeChar_of_lt short, List.singleton_append, List.cons.injEq] at bytes
      obtain ⟨rfl, same⟩ := bytes
      refine ⟨c, rest, rfl, ?_, same⟩
      rw [UInt8.toNat_ofNat']
      omega
    · obtain ⟨first, others, whole⟩ := List.exists_cons_of_ne_nil (encodeChar_ne_nil c)
      rw [whole, List.cons_append, List.cons.injEq] at bytes
      have high := le_of_mem_encodeChar long first (whole ▸ List.mem_cons_self)
      rw [bytes.1] at high
      exact absurd ascii (Nat.not_lt.mpr high)

section cutting

variable {p : UInt8 → Bool} (high : ∀ b : UInt8, 0x80 ≤ b.toNat → p b)

include high

/-- A test of bytes holds of all bytes of a character, or of none but the one of ASCII that fails it. -/
private theorem encodeChar_cases (c : Char) :
    (onChars p c = true ∧ ∀ b ∈ encodeChar c, p b) ∨
      (onChars p c = false ∧ ∃ b, encodeChar c = [b] ∧ p b = false) := by
  rcases Nat.lt_or_ge c.toNat 0x80 with short | long
  · rw [encodeChar_of_lt short, onChars, decide_eq_false (Nat.not_le.mpr short), Bool.false_or]
    cases tested : p (UInt8.ofNat c.toNat)
    · exact .inr ⟨rfl, _, rfl, tested⟩
    · exact .inl ⟨rfl, by simpa using tested⟩
  · exact .inl ⟨by simp [onChars, long], fun b member => high b (le_of_mem_encodeChar long b member)⟩

/-- A text is cut at a character of ASCII as its bytes are. -/
theorem takeWhile_encode (t : Text) : (encode t).takeWhile p = encode (t.takeWhile (onChars p)) := by
  induction t with
  | nil => rfl
  | cons c t ih =>
    rw [encode_cons]
    rcases encodeChar_cases high c with ⟨passed, all⟩ | ⟨stopped, b, single, refused⟩
    · rw [List.takeWhile_append_of_pos all, ih, List.takeWhile_cons_of_pos passed, encode_cons]
    · rw [single, List.takeWhile_cons_of_neg (by simp [stopped])]
      exact List.takeWhile_cons_of_neg (by simp [refused])

theorem dropWhile_encode (t : Text) : (encode t).dropWhile p = encode (t.dropWhile (onChars p)) := by
  induction t with
  | nil => rfl
  | cons c t ih =>
    rw [encode_cons]
    rcases encodeChar_cases high c with ⟨passed, all⟩ | ⟨stopped, b, single, refused⟩
    · rw [List.dropWhile_append_of_pos all, ih, List.dropWhile_cons_of_pos passed]
    · rw [List.dropWhile_cons_of_neg (by simp [stopped]), encode_cons, single]
      exact List.dropWhile_cons_of_neg (by simp [refused])

end cutting

/-! ### Cutting at a position -/

theorem length_encode_of_ascii {t : Text} (ascii : ∀ c ∈ t, c.toNat < 0x80) : (encode t).length = t.length := by
  induction t with
  | nil => rfl
  | cons c t ih =>
    rw [encode_cons, encodeChar_of_lt (ascii c List.mem_cons_self), List.length_append,
      ih fun d member => ascii d (List.mem_cons_of_mem c member), List.length_cons (a := c)]
    exact Nat.add_comm 1 t.length

/-- The bytes behind the first of a character are never first themselves. -/
theorem encodeChar_shape (c : Char) : ∃ first tail, encodeChar c = first :: tail ∧
    (first.toNat < 0x80 ∨ 0xC0 ≤ first.toNat) ∧ ∀ b ∈ tail, 0x80 ≤ b.toNat ∧ b.toNat < 0xC0 := by
  have bound : c.toNat < 0x110000 := by
    have valid : c.toNat < 0xD800 ∨ 0xDFFF < c.toNat ∧ c.toNat < 0x110000 := c.valid
    omega
  have byte {n : Nat} (fits : n < 0x100) : (UInt8.ofNat n).toNat = n := by
    rw [UInt8.toNat_ofNat']
    omega
  have tail (k : Nat) : 0x80 ≤ (UInt8.ofNat (0x80 + (c.toNat >>> (6 * k)) % 64)).toNat ∧
      (UInt8.ofNat (0x80 + (c.toNat >>> (6 * k)) % 64)).toNat < 0xC0 := by
    rw [byte (by omega)]
    omega
  dsimp only [encodeChar]
  split
  case isTrue short => exact ⟨_, [], rfl, .inl (by rwa [byte (by omega)]), nofun⟩
  split
  · refine ⟨_, _, rfl, .inr ?_, by simpa using tail 0⟩
    rw [byte (by omega)]
    exact Nat.le_add_right _ _
  split
  · refine ⟨_, _, rfl, .inr ?_, by simpa using ⟨tail 1, tail 0⟩⟩
    rw [byte (by omega)]
    omega
  · refine ⟨_, _, rfl, .inr ?_, by simpa using ⟨tail 2, tail 1, tail 0⟩⟩
    rw [byte (by omega)]
    omega

/-- A position in the bytes of a text lies between two characters or inside one. -/
theorem cut_encode {t : Text} {n : Nat} (within : n ≤ (encode t).length) :
    (∃ before after, t = before ++ after ∧ (encode before).length = n) ∨
      ∃ before c after, t = before ++ c :: after ∧ (encode before).length < n ∧
        n < (encode before).length + (encodeChar c).length := by
  induction t generalizing n with
  | nil => exact .inl ⟨[], [], rfl, (Nat.le_zero.mp within).symm⟩
  | cons c t ih =>
    rw [encode_cons, List.length_append] at within
    rcases Nat.eq_zero_or_pos n with rfl | later
    · exact .inl ⟨[], c :: t, rfl, rfl⟩
    rcases Nat.lt_or_ge n (encodeChar c).length with inside | behind
    · exact .inr ⟨[], c, t, rfl, later, (Nat.zero_add _).symm ▸ inside⟩
    rcases ih (n := n - (encodeChar c).length) (by omega) with ⟨before, after, rfl, cut⟩ | ⟨before, d, after, rfl, cut⟩
    · refine .inl ⟨c :: before, after, rfl, ?_⟩
      rw [encode_cons, List.length_append, cut]
      omega
    · refine .inr ⟨c :: before, d, after, rfl, ?_⟩
      rw [encode_cons, List.length_append]
      omega

/-! ### Counting -/

private theorem lead_bounds {b low high : UInt8} {left value : Nat}
    (leads : lead b = some (.inr (.inside left low high value))) : 0x80 ≤ low.toNat ∧ high.toNat < 0xC0 := by
  dsimp only [lead] at leads
  repeat' split at leads
  all_goals cases leads <;> decide

namespace Progress

/-- Number of the characters and ill-formed parts that are decoded if nothing follows. -/
def count (p : Progress) : Nat := p.decoded.length + if p.state = .boundary then 0 else 1

/-- A sequence waits for bytes that begin no character. -/
def Waits (p : Progress) : Prop :=
  ∀ left low high value, p.state = .inside left low high value → 0x80 ≤ low.toNat ∧ high.toNat < 0xC0

theorem waits_boundary (decoded : List (Option Char)) : Waits ⟨.boundary, decoded⟩ := nofun

theorem waits_begin (decoded : List (Option Char)) (b : UInt8) : (begin decoded b).Waits := by
  rw [begin]
  split
  case h_1 => exact waits_boundary _
  case h_3 => exact waits_boundary _
  case h_2 state leads =>
    rintro left low high value rfl
    exact lead_bounds leads

/-- What a sequence waits for begins no character. -/
theorem waits_step (p : Progress) (b : UInt8) : (p.step b).Waits := by
  rw [step]
  split
  · exact waits_begin _ b
  split
  · dsimp only
    split
    · exact waits_boundary _
    · rintro _ _ _ _ ⟨⟩
      decide
  · exact waits_begin _ b

theorem Waits.foldl {p : Progress} (waits : p.Waits) (bytes : Bytes) : (bytes.foldl step p).Waits := by
  induction bytes generalizing p with
  | nil => exact waits
  | cons b bytes ih => exact ih (waits_step p b)

theorem count_begin_le (decoded : List (Option Char)) (b : UInt8) : (begin decoded b).count ≤ decoded.length + 1 := by
  rw [begin]
  split
  · exact Nat.le_refl _
  · rw [count]
    dsimp only
    split <;> omega
  · exact Nat.le_refl _

/-- A byte adds no more than one to the count. -/
theorem count_step_le (p : Progress) (b : UInt8) : (p.step b).count ≤ p.count + 1 := by
  obtain ⟨state, decoded⟩ := p
  cases state with
  | boundary => exact count_begin_le decoded b
  | inside left low high value =>
    have inside : count ⟨.inside left low high value, decoded⟩ = decoded.length + 1 := rfl
    rw [inside, step]
    dsimp only
    split
    · split
      · exact Nat.le_succ _
      · exact Nat.le_succ _
    · exact count_begin_le (none :: decoded) b

/-- Nor does a character, however many bytes it has. -/
theorem count_foldl_encodeChar_le {p : Progress} (waits : p.Waits) (c : Char) :
    ((encodeChar c).foldl step p).count ≤ p.count + 1 := by
  obtain ⟨state, decoded⟩ := p
  cases state with
  | boundary =>
    rw [foldl_encodeChar]
    exact Nat.le_refl _
  | inside left low high value =>
    obtain ⟨first, tail, whole, leading, -⟩ := encodeChar_shape c
    obtain ⟨above, below⟩ := waits left low high value rfl
    have refused : ¬(low ≤ first ∧ first ≤ high) := by
      rw [UInt8.le_iff_toNat_le, UInt8.le_iff_toNat_le]
      omega
    -- The sequence ends as ill-formed, and the character is decoded as from a boundary.
    have anew : step ⟨.inside left low high value, decoded⟩ first = step ⟨.boundary, none :: decoded⟩ first :=
      if_neg refused
    have decodes := foldl_encodeChar c (none :: decoded)
    rw [whole, List.foldl_cons] at decodes ⊢
    rw [anew, decodes]
    exact Nat.le_refl _

theorem length_finish (p : Progress) : p.finish.length = p.count := by
  rw [finish, count, List.length_reverse]
  cases p.state <;> simp

end Progress

theorem length_decodeLossy (bytes : Bytes) : (decodeLossy bytes).length = (bytes.foldl Progress.step {}).count := by
  rw [decodeLossy, List.length_map, decodeParts, Progress.length_finish]

end HostProbe.Utf8
