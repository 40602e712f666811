import HostProbe.Windows.Records

/-! Text and its UTF-16 form. Decoding what was encoded gives the text back, and a zero unit stands for the character
zero only, so it ends texts without that character. -/
namespace HostProbe

namespace Utf16

/-! ### The round trip -/

private theorem toNat_ofNat {n : Nat} (fits : n < 0x10000) : (UInt16.ofNat n).toNat = n := by
  rw [UInt16.toNat_ofNat']
  omega

theorem isHigh_iff {u : UInt16} : isHigh u ↔ 0xD800 ≤ u.toNat ∧ u.toNat < 0xDC00 := by
  simp [isHigh, UInt16.le_iff_toNat_le, UInt16.lt_iff_toNat_lt]

theorem isLow_iff {u : UInt16} : isLow u ↔ 0xDC00 ≤ u.toNat ∧ u.toNat < 0xE000 := by
  simp [isLow, UInt16.le_iff_toNat_le, UInt16.lt_iff_toNat_lt]

private theorem step_high {part : Nat} (small : part < 1024) (decoded : Text) :
    Progress.step ⟨none, decoded⟩ (UInt16.ofNat (0xD800 + part)) = ⟨some (UInt16.ofNat (0xD800 + part)), decoded⟩ := by
  have high : isHigh (UInt16.ofNat (0xD800 + part)) := by
    rw [isHigh_iff, toNat_ofNat (by omega)]
    omega
  simp only [Progress.step, if_pos high]

/-- Two surrogates make the character that they were made of. -/
private theorem step_low {upper lower : Nat} (above : upper < 1024) (below : lower < 1024) (decoded : Text) :
    Progress.step ⟨some (UInt16.ofNat (0xD800 + upper)), decoded⟩ (UInt16.ofNat (0xDC00 + lower)) =
      ⟨none, Char.ofNat (0x10000 + upper * 1024 + lower) :: decoded⟩ := by
  have first := toNat_ofNat (n := 0xD800 + upper) (by omega)
  have second := toNat_ofNat (n := 0xDC00 + lower) (by omega)
  have low : isLow (UInt16.ofNat (0xDC00 + lower)) := by
    rw [isLow_iff, second]
    omega
  simp only [Progress.step, if_pos low, first, second, Nat.add_sub_cancel_left]

/-- Decoding the units of a character gives that character, where no high surrogate waits. -/
theorem foldl_encodeChar (c : Char) (decoded : Text) :
    (encodeChar c).foldl Progress.step ⟨none, decoded⟩ = ⟨none, c :: decoded⟩ := by
  have valid : c.toNat < 0xD800 ∨ 0xDFFF < c.toNat ∧ c.toNat < 0x110000 := c.valid
  have back : Char.ofNat c.toNat = c := Char.ofNat_toNat c
  unfold encodeChar
  generalize c.toNat = n at valid back
  dsimp only
  split
  case isTrue basic =>
    have unit := toNat_ofNat basic
    have high : ¬isHigh (UInt16.ofNat n) := by
      rw [isHigh_iff, unit]
      omega
    have low : ¬isLow (UInt16.ofNat n) := by
      rw [isLow_iff, unit]
      omega
    simp only [List.foldl_cons, List.foldl_nil, Progress.step, if_neg high, if_neg low, unit, back]
  case isFalse past =>
    have value : 0x10000 + (n - 0x10000) / 1024 * 1024 + (n - 0x10000) % 1024 = n := by omega
    rw [List.foldl_cons, List.foldl_cons, List.foldl_nil, step_high (by omega), step_low (by omega) (by omega), value,
      back]

theorem foldl_encode (t : Text) (decoded : Text) :
    (encode t).foldl Progress.step ⟨none, decoded⟩ = ⟨none, t.reverse ++ decoded⟩ := by
  induction t generalizing decoded with
  | nil => rfl
  | cons c t ih =>
    rw [encode, List.flatMap_cons, List.foldl_append, foldl_encodeChar]
    exact (ih _).trans (by simp)

@[simp] theorem decodeLossy_encode (t : Text) : decodeLossy (encode t) = t := by
  have ended := foldl_encode t []
  simp only [decodeLossy, ended, List.append_nil, List.reverse_reverse]

@[simp] theorem toString_encode (t : Text) : toString (encode t) = String.ofList t := by
  rw [toString, decodeLossy_encode]

/-! ### Zeros -/

theorem zero_notMem_encodeChar {c : Char} (other : c ≠ '\x00') : 0 ∉ encodeChar c := by
  have positive : c.toNat ≠ 0 := fun zero => other (Char.toNat_inj.mp zero)
  have nonzero {n : Nat} (fits : n < 0x10000) (positive : n ≠ 0) : (0 : UInt16) ≠ UInt16.ofNat n := by
    rw [ne_eq, ← UInt16.toNat_inj, toNat_ofNat fits]
    exact positive.symm
  have valid : c.toNat < 0xD800 ∨ 0xDFFF < c.toNat ∧ c.toNat < 0x110000 := c.valid
  unfold encodeChar
  dsimp only
  split
  case isTrue basic => simpa using nonzero basic positive
  case isFalse past =>
    rw [List.mem_cons, List.mem_singleton, not_or]
    exact ⟨nonzero (by omega) (by omega), nonzero (by omega) (by omega)⟩

theorem zero_notMem_encode {t : Text} (absent : '\x00' ∉ t) : 0 ∉ encode t := by
  rw [encode, List.mem_flatMap]
  rintro ⟨c, member, found⟩
  exact zero_notMem_encodeChar (ne_of_mem_of_not_mem member absent) found

theorem encode_eq_nil_iff {t : Text} : encode t = [] ↔ t = [] := by
  refine ⟨fun empty => ?_, congrArg encode⟩
  rw [← decodeLossy_encode t, empty]
  rfl

def bytes (units : List UInt16) : Bytes :=
  units.flatMap fun u => [UInt8.ofNat u.toNat, UInt8.ofNat (u.toNat / 256)]

end Utf16

namespace Windows

/-- Units come back from their bytes. -/
theorem unitsOfBytes_bytes (units : List UInt16) (rest : Bytes) :
    unitsOfBytes (Utf16.bytes units ++ rest) = units ++ unitsOfBytes rest := by
  induction units with
  | nil => rfl
  | cons u units ih =>
    have unit : UInt16.ofNat ((UInt8.ofNat u.toNat).toNat + 256 * (UInt8.ofNat (u.toNat / 256)).toNat) = u := by
      have bound := u.toNat_lt
      rw [← UInt16.toNat_inj, UInt16.toNat_ofNat', UInt8.toNat_ofNat', UInt8.toNat_ofNat']
      omega
    rw [Utf16.bytes, List.flatMap_cons, List.append_assoc, List.cons_append, List.cons_append, List.nil_append,
      unitsOfBytes, unit]
    exact congrArg (u :: ·) ih

end Windows
end HostProbe
