import HostProbe.Proofs.Text.Numerals

/-! Numerals in base ten: which texts the readers of integers take, and digits that they read back. -/
namespace HostProbe.Integer

/-- Digits, at least one, and nothing else. -/
def IsDecimal (t : Text) : Prop := t ≠ [] ∧ ∀ c ∈ t, c.isDigit

instance (t : Text) : Decidable (IsDecimal t) := inferInstanceAs (Decidable (_ ∧ _))

def decimalValue (digits : Text) : Nat := Nat.ofDigitChars 10 digits 0

/-- Digits of a number, perhaps with a plus sign in front. -/
def SpellsNat (t : Text) (n : Nat) : Prop :=
  ∃ digits, IsDecimal digits ∧ (t = digits ∨ t = '+' :: digits) ∧ decimalValue digits = n

/-- Digits of a number, perhaps with either sign in front. -/
def SpellsInt (t : Text) (z : Int) : Prop :=
  (∃ n : Nat, SpellsNat t n ∧ z = n) ∨ ∃ digits, IsDecimal digits ∧ t = '-' :: digits ∧ z = -decimalValue digits

/-- A number as it is printed: only a negative one has a sign. -/
def toDecimal (z : Int) : Text :=
  if z < 0 then '-' :: Nat.toDigits 10 z.natAbs else Nat.toDigits 10 z.natAbs

/-! ### Reading -/

theorem isDigit_iff {c : Char} : c.isDigit ↔ 48 ≤ c.toNat ∧ c.toNat ≤ 57 := by
  simp [Char.isDigit, UInt32.le_iff_toNat_le]

/-- The digits in base ten are those of ASCII. -/
theorem digit?_ten (c : Char) : digit? 10 c = if c.isDigit then some (c.toNat - 48) else none := by
  simp only [digit?, isDigit_iff]
  split
  case isTrue bounds => exact if_pos (by omega)
  split
  · exact if_neg (by omega)
  split
  · exact if_neg (by omega)
  · rfl

theorem valueFrom_ten (value : Nat) (t : Text) :
    valueFrom 10 (fun c => c.toNat - 48) value t = Nat.ofDigitChars 10 t value := by
  simp only [valueFrom, Nat.ofDigitChars, Nat.mul_comm]
  rfl

theorem readDigits_zero_eq_ok_iff {largest n : Nat} {overflow : IntegerFault} {t : Text} (nonempty : t ≠ []) :
    readDigits 10 largest overflow 0 t = .ok n ↔ IsDecimal t ∧ decimalValue t = n ∧ n ≤ largest := by
  rw [readDigits_eq_ok_iff (by decide) digit?_ten (Nat.zero_le _), valueFrom_ten, IsDecimal, and_iff_right nonempty,
    decimalValue]

theorem IsDecimal.head_isDigit {c : Char} {rest : Text} (decimal : IsDecimal (c :: rest)) : c.isDigit :=
  decimal.2 c List.mem_cons_self

theorem not_spellsNat_nil (n : Nat) : ¬SpellsNat [] n := by
  rintro ⟨digits, ⟨nonempty, -⟩, same | same, -⟩
  · exact nonempty same.symm
  · cases same

theorem spellsNat_plus {digits : Text} {n : Nat} :
    SpellsNat ('+' :: digits) n ↔ IsDecimal digits ∧ decimalValue digits = n := by
  constructor
  · rintro ⟨_, decimal, rfl | same, value⟩
    · exact absurd decimal.head_isDigit (by decide)
    · obtain ⟨-, rfl⟩ := List.cons.inj same
      exact ⟨decimal, value⟩
  · rintro ⟨decimal, value⟩
    exact ⟨digits, decimal, .inr rfl, value⟩

theorem spellsNat_of_ne {c : Char} (other : c ≠ '+') {rest : Text} {n : Nat} :
    SpellsNat (c :: rest) n ↔ IsDecimal (c :: rest) ∧ decimalValue (c :: rest) = n := by
  constructor
  · rintro ⟨_, decimal, rfl | same, value⟩
    · exact ⟨decimal, value⟩
    · exact absurd (List.cons.inj same).1 other
  · rintro ⟨decimal, value⟩
    exact ⟨c :: rest, decimal, .inl rfl, value⟩

/-- Exactly the spelled numbers within the bound are read. -/
theorem unsigned_eq_ok_iff {largest n : Nat} {t : Text} :
    unsigned 10 largest t = .ok n ↔ SpellsNat t n ∧ n ≤ largest := by
  unfold unsigned
  split
  case h_1 => simp [not_spellsNat_nil]
  case h_2 => simp [spellsNat_plus, IsDecimal]
  case h_3 digits nonempty =>
    rw [readDigits_zero_eq_ok_iff nonempty, spellsNat_plus, and_assoc]
  case h_4 nonempty sign signed =>
    obtain ⟨c, rest, rfl⟩ := List.exists_cons_of_ne_nil nonempty
    have other : c ≠ '+' := by
      rintro rfl
      exact signed rest rfl
    rw [readDigits_zero_eq_ok_iff nonempty, spellsNat_of_ne other, and_assoc]

theorem word?_eq_some_iff {t : Text} {n : Nat} : word? t = some n ↔ SpellsNat t n ∧ n ≤ 0xffffffffffffffff := by
  rw [word?, toOption_eq_some_iff, word, unsigned_eq_ok_iff]

theorem word32?_eq_some_iff {t : Text} {n : Nat} : word32? t = some n ↔ SpellsNat t n ∧ n ≤ 0xffffffff := by
  rw [word32?, toOption_eq_some_iff, unsigned_eq_ok_iff]

theorem spellsInt_minus {digits : Text} {z : Int} :
    SpellsInt ('-' :: digits) z ↔ IsDecimal digits ∧ z = -decimalValue digits := by
  constructor
  · rintro (⟨n, spelt, -⟩ | ⟨_, decimal, same, value⟩)
    · rw [spellsNat_of_ne (by decide)] at spelt
      exact absurd spelt.1.head_isDigit (by decide)
    · obtain ⟨-, rfl⟩ := List.cons.inj same
      exact ⟨decimal, value⟩
  · rintro ⟨decimal, value⟩
    exact .inr ⟨digits, decimal, rfl, value⟩

theorem spellsInt_of_ne {t : Text} (other : ∀ digits, t ≠ '-' :: digits) {z : Int} :
    SpellsInt t z ↔ ∃ n : Nat, SpellsNat t n ∧ z = n :=
  or_iff_left fun ⟨digits, _, same, _⟩ => other digits same

/-- Exactly the spelled numbers within the bounds are read, and the lower one is one farther from zero. -/
theorem signed_eq_ok_iff {largest : Nat} {t : Text} {z : Int} :
    signed largest t = .ok z ↔ SpellsInt t z ∧ -((largest + 1 : Nat) : Int) ≤ z ∧ z ≤ largest := by
  have map_eq_ok_iff {read : Except IntegerFault Nat} {f : Nat → Int} :
      read.map f = .ok z ↔ ∃ n, read = .ok n ∧ f n = z := by
    cases read <;> simp [Except.map]
  -- Without a minus sign the number is read as an unsigned one is.
  have natural (digits : Text) (nonempty : digits ≠ []) (t : Text)
      (spells : ∀ n, SpellsNat t n ↔ IsDecimal digits ∧ decimalValue digits = n) (unsigned : ∀ rest, t ≠ '-' :: rest) :
      (readDigits 10 largest .tooLarge 0 digits).map Int.ofNat = .ok z ↔
        SpellsInt t z ∧ -((largest + 1 : Nat) : Int) ≤ z ∧ z ≤ largest := by
    simp only [map_eq_ok_iff, readDigits_zero_eq_ok_iff nonempty, spellsInt_of_ne unsigned, spells]
    constructor
    · rintro ⟨n, ⟨decimal, value, fits⟩, rfl⟩
      exact ⟨⟨n, ⟨decimal, value⟩, rfl⟩, by simp only [Int.ofNat_eq_natCast]; omega⟩
    · rintro ⟨⟨n, ⟨decimal, value⟩, rfl⟩, -, fits⟩
      exact ⟨n, ⟨decimal, value, by omega⟩, rfl⟩
  unfold signed
  split
  case h_1 =>
    rw [spellsInt_of_ne (by simp)]
    simp [not_spellsNat_nil]
  case h_2 =>
    rw [spellsInt_of_ne (by simp)]
    simp [spellsNat_plus, IsDecimal]
  case h_3 => simp [spellsInt_minus, IsDecimal]
  case h_4 digits nonempty =>
    have negated (read : Except IntegerFault Nat) :
        Except.map (fun z : Int => -z) (do return ((← read : Nat) : Int)) = read.map fun n : Nat => -(n : Int) := by
      cases read <;> rfl
    rw [negated, map_eq_ok_iff, spellsInt_minus]
    simp only [readDigits_zero_eq_ok_iff nonempty]
    constructor
    · rintro ⟨n, ⟨decimal, value, fits⟩, rfl⟩
      exact ⟨⟨decimal, by rw [value]⟩, by omega⟩
    · rintro ⟨⟨decimal, rfl⟩, fits, -⟩
      exact ⟨decimalValue digits, ⟨decimal, rfl, by omega⟩, rfl⟩
  case h_5 digits nonempty => exact natural digits nonempty _ (fun n => spellsNat_plus) (by simp)
  case h_6 digits nonempty plus minus negative positive =>
    obtain ⟨c, rest, rfl⟩ := List.exists_cons_of_ne_nil nonempty
    have other : c ≠ '+' := by
      rintro rfl
      exact positive rest rfl
    exact natural (c :: rest) nonempty _ (fun n => spellsNat_of_ne other) fun rest same => negative rest same

theorem int64?_eq_some_iff {t : Text} {z : Int} :
    int64? t = some z ↔ SpellsInt t z ∧ -0x8000000000000000 ≤ z ∧ z ≤ 0x7fffffffffffffff := by
  rw [int64?, toOption_eq_some_iff, signed_eq_ok_iff]
  rfl

theorem int32?_eq_some_iff {t : Text} {z : Int} :
    int32? t = some z ↔ SpellsInt t z ∧ -0x80000000 ≤ z ∧ z ≤ 0x7fffffff := by
  rw [int32?, toOption_eq_some_iff, signed_eq_ok_iff]
  rfl

/-! ### Writing -/

theorem isDecimal_toDigits (n : Nat) : IsDecimal (Nat.toDigits 10 n) :=
  ⟨Nat.toDigits_ne_nil, fun _ => Nat.isDigit_of_mem_toDigits (by decide) (by decide)⟩

theorem spellsNat_toDigits (n : Nat) : SpellsNat (Nat.toDigits 10 n) n :=
  ⟨_, isDecimal_toDigits n, .inl rfl, Nat.ofDigitChars_ten_toDigits⟩

/-- A word reads its own digits. -/
theorem word?_toDigits {n : Nat} (fits : n ≤ 0xffffffffffffffff) : word? (Nat.toDigits 10 n) = some n :=
  word?_eq_some_iff.mpr ⟨spellsNat_toDigits n, fits⟩

theorem isBlank_of_isDigit {c : Char} (digit : c.isDigit) : isBlank c = false := by
  rw [isDigit_iff] at digit
  simp only [isBlank, Bool.or_eq_false_iff, Bool.and_eq_false_iff, decide_eq_false_iff_not, beq_eq_false_iff_ne]
  omega

theorem unbroken_toDigits (n : Nat) : ∀ c ∈ Nat.toDigits 10 n, isBlank c = false :=
  fun c member => isBlank_of_isDigit ((isDecimal_toDigits n).2 c member)

theorem spellsInt_toDecimal (z : Int) : SpellsInt (toDecimal z) z := by
  rw [toDecimal]
  split
  case isTrue negative =>
    rw [spellsInt_minus, decimalValue, Nat.ofDigitChars_ten_toDigits]
    exact ⟨isDecimal_toDigits _, by omega⟩
  case isFalse natural => exact .inl ⟨z.natAbs, spellsNat_toDigits _, by omega⟩

theorem toDecimal_natCast (n : Nat) : toDecimal n = Nat.toDigits 10 n :=
  (if_neg (by omega)).trans (congrArg _ (Int.natAbs_natCast n))

/-- A sign and digits are printed, and nothing else. -/
theorem mem_toDecimal {z : Int} {c : Char} (member : c ∈ toDecimal z) : c = '-' ∨ c.isDigit := by
  have digit {n : Nat} (member : c ∈ Nat.toDigits 10 n) : c.isDigit := (isDecimal_toDigits n).2 c member
  rw [toDecimal] at member
  split at member
  · exact (List.mem_cons.mp member).imp_right digit
  · exact .inr (digit member)

theorem toDecimal_ne_nil (z : Int) : toDecimal z ≠ [] := by
  rw [toDecimal]
  split
  · exact List.cons_ne_nil _ _
  · exact Nat.toDigits_ne_nil

end HostProbe.Integer
