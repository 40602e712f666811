import HostProbe.Proofs.Fields
import HostProbe.Proofs.Overflow.Words

/-! Pieces that are cut out of bytes between two positions. To leave the bytes, or to end before the beginning, is an
abort. -/
namespace HostProbe.Bytes

variable {bytes : Bytes} {start stop : Nat}

def load (bytes : Bytes) (offset size : Nat) : Outcome Bytes :=
  if offset + size ≤ bytes.length then .ok ((bytes.drop offset).take size) else Outcome.abort

/-- The bytes of a range, if its end is a word and not behind the last byte. -/
def loadWithin? (bytes : Bytes) (offset size : Nat) : Outcome (Option Bytes) :=
  match Word.add offset size with
  | .error _ => return none
  | .ok stop => do if bytes.length < stop then return none else return some (← load bytes offset size)

/-- The bytes of a range are had exactly if the range ends within the bytes. -/
theorem loadWithin?_eq (held : bytes.length < Word.span) (offset size : Nat) : loadWithin? bytes offset size =
    .ok (if offset + size ≤ bytes.length then some ((bytes.drop offset).take size) else none) := by
  rw [loadWithin?]
  rcases Nat.lt_or_ge (offset + size) Word.span with word | excess
  · rw [Word.add_of_lt word]
    by_cases within : offset + size ≤ bytes.length
    · simp only [Nat.not_lt.mpr within, if_false, load, if_pos within]
      rfl
    · simp only [Nat.not_le.mp within, if_true, if_neg within]
      rfl
  · have outside : ¬offset + size ≤ bytes.length := by omega
    rw [Word.add, Word.check_eq_abort_iff.mpr excess, if_neg outside]
    rfl

def between (bytes : Bytes) (start stop : Nat) : Outcome Bytes := do load bytes start (← Word.sub stop start)

theorem between_eq (ordered : start ≤ stop) (within : stop ≤ bytes.length) :
    between bytes start stop = .ok ((bytes.drop start).take (stop - start)) := by
  have size : Word.sub stop start = .ok (stop - start) :=
    Word.sub_eq_ok_iff.mpr ⟨ordered, rfl⟩
  have inside : start + (stop - start) ≤ bytes.length := by omega
  rw [between, size]
  exact if_pos inside

theorem between_length (within : start ≤ bytes.length) : between bytes start bytes.length = .ok (bytes.drop start) := by
  rw [between_eq within (Nat.le_refl _), List.take_of_length_le (Nat.le_of_eq (List.length_drop))]

/-- A position that is looked for is where dropping the bytes before it stops, if it stops at all. -/
theorem findIdx?_cases (bytes : Bytes) (p : UInt8 → Bool) :
    bytes.findIdx? p = none ∧ (bytes.dropWhile fun b => !p b) = [] ∨
      ∃ i, bytes.findIdx? p = some i ∧ i < bytes.length ∧ (bytes.dropWhile fun b => !p b) = bytes.drop i := by
  have stops : (bytes.dropWhile fun b => !p b) = bytes.drop (bytes.findIdx p) := by
    simpa using @List.dropWhile_eq_drop_findIdx_not UInt8 bytes fun b => !p b
  rw [stops]
  cases found : bytes.findIdx? p with
  | none =>
    have nowhere : bytes.findIdx p = bytes.length := by
      rw [List.findIdx_eq_getD_findIdx?, found]
      rfl
    exact .inl ⟨rfl, nowhere ▸ List.drop_length⟩
  | some i =>
    obtain ⟨within, rfl⟩ := List.findIdx?_eq_some_iff_findIdx_eq.mp found
    exact .inr ⟨_, rfl, within, rfl⟩

/-- The text of the bytes before the first zero byte, or of all of them. -/
def loadText (bytes : Bytes) : Outcome String :=
  return Utf8.toString (← between bytes 0 ((bytes.findIdx? (· == 0)).getD bytes.length))

theorem loadText_eq (bytes : Bytes) : loadText bytes = .ok (cString bytes) := by
  have before : bytes.takeWhile (· != 0) = bytes.take (bytes.findIdx (· == 0)) := by
    simpa [bne] using @List.takeWhile_eq_take_findIdx_not UInt8 bytes (· != 0)
  rw [loadText, ← List.findIdx_eq_getD_findIdx?, between_eq (Nat.zero_le _) List.findIdx_le_length, List.drop_zero,
    Nat.sub_zero, cString, untilNul, before]
  rfl

end HostProbe.Bytes
