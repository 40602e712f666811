import HostProbe.Bytes
import HostProbe.Proofs.Text.Numerals
import Mathlib.Algebra.Group.Nat.Defs

/-! Numerals in base sixteen: which texts the reader of integers takes, and digits that it reads back. -/
namespace HostProbe.Integer

/-- The digits in order of their values; letters may be small as well. -/
def hexDigits : Text := "0123456789ABCDEF".toList

def IsHex (t : Text) : Prop := t ≠ [] ∧ ∀ c ∈ t, c.toUpper ∈ hexDigits

instance (t : Text) : Decidable (IsHex t) := inferInstanceAs (Decidable (_ ∧ _))

def hexValueFrom (value : Nat) (digits : Text) : Nat :=
  digits.foldl (fun n c => n * 16 + hexDigits.idxOf c.toUpper) value

def hexValue (digits : Text) : Nat := hexValueFrom 0 digits

def magnitude (t : Text) : Text :=
  match t with
  | '+' :: digits => digits
  | digits => digits

/-! ### Signs -/

theorem lt_of_toUpper_mem {c : Char} (digit : c.toUpper ∈ hexDigits) : c.toNat < 128 := by
  have all : ∀ d ∈ hexDigits, d.toNat < 128 := by decide
  by_cases small : 'a'.val ≤ c.val ∧ c.val ≤ 'z'.val
  · have last : c.toNat ≤ 122 := UInt32.le_iff_toNat_le.mp small.2
    omega
  · have kept : c.toUpper = c := dif_neg small
    exact all c (kept ▸ digit)

theorem plus_of_magnitude (t : Text) : magnitude t = t ∨ t = '+' :: magnitude t := by
  unfold magnitude
  split
  · exact .inr rfl
  · exact .inl rfl

theorem not_plus_of_isHex {t : Text} (hex : IsHex t) : '+' ∉ t := fun member => absurd (hex.2 _ member) (by decide)

theorem magnitude_of_notMem {t : Text} (absent : '+' ∉ t) : magnitude t = t := by
  rcases plus_of_magnitude t with whole | signed
  · exact whole
  · exact absurd (signed ▸ List.mem_cons_self) absent

/-- A plus sign or a digit of either case. -/
theorem mem_of_isHex_magnitude {t : Text} (hex : IsHex (magnitude t)) {c : Char} (member : c ∈ t) :
    c = '+' ∨ c.toUpper ∈ hexDigits := by
  rcases plus_of_magnitude t with whole | signed
  · exact .inr (hex.2 c (whole.symm ▸ member))
  · rw [signed, List.mem_cons] at member
    exact member.imp_right (hex.2 c)

theorem ascii_of_isHex_magnitude {t : Text} (hex : IsHex (magnitude t)) : ∀ c ∈ t, c.toNat < 0x80 := by
  intro c member
  rcases mem_of_isHex_magnitude hex member with rfl | digit
  · decide
  · exact lt_of_toUpper_mem digit

theorem length_magnitude_le (t : Text) : (magnitude t).length ≤ t.length := by
  rcases plus_of_magnitude t with whole | signed
  · exact Nat.le_of_eq (congrArg _ whole)
  · exact Nat.le_trans (Nat.le_succ _) (Nat.le_of_eq (congrArg List.length signed).symm)

/-! ### Reading -/

theorem digit?_sixteen (c : Char) :
    digit? 16 c = if c.toUpper ∈ hexDigits then some (hexDigits.idxOf c.toUpper) else none := by
  have ascii : ∀ n < 128, digit? 16 (Char.ofNat n) =
      if (Char.ofNat n).toUpper ∈ hexDigits then some (hexDigits.idxOf (Char.ofNat n).toUpper) else none := by
    decide +kernel
  rcases Nat.lt_or_ge c.toNat 128 with short | long
  · have same := ascii c.toNat short
    rwa [Char.ofNat_toNat] at same
  · have number : ¬(48 ≤ c.toNat ∧ c.toNat ≤ 57) := by omega
    have small : ¬(97 ≤ c.toNat ∧ c.toNat ≤ 122) := by omega
    have capital : ¬(65 ≤ c.toNat ∧ c.toNat ≤ 90) := by omega
    rw [if_neg fun digit => Nat.not_lt.mpr long (lt_of_toUpper_mem digit)]
    simp [digit?, number, small, capital]

/-- So many digits make a number of so many digits. -/
theorem hexValueFrom_lt {value : Nat} {digits : Text} (all : ∀ c ∈ digits, c.toUpper ∈ hexDigits) :
    hexValueFrom value digits < (value + 1) * 16 ^ digits.length := by
  induction digits generalizing value with
  | nil => simp [hexValueFrom]
  | cons c rest ih =>
    have digit : hexDigits.idxOf c.toUpper < 16 := List.idxOf_lt_length_iff.mpr (all c List.mem_cons_self)
    have below : value * 16 + hexDigits.idxOf c.toUpper + 1 ≤ (value + 1) * 16 := by omega
    calc hexValueFrom (value * 16 + hexDigits.idxOf c.toUpper) rest
        < (value * 16 + hexDigits.idxOf c.toUpper + 1) * 16 ^ rest.length :=
          ih fun d member => all d (List.mem_cons_of_mem c member)
      _ ≤ (value + 1) * 16 * 16 ^ rest.length := Nat.mul_le_mul_right _ below
      _ = (value + 1) * 16 ^ (rest.length + 1) := by rw [Nat.pow_succ, Nat.mul_assoc, Nat.mul_comm 16]

/-- A numeral is read if it has digits only, after a plus sign perhaps, and its value is not too large. -/
theorem hex?_eq_some_iff {largest n : Nat} {t : Text} :
    hex? largest t = some n ↔ IsHex (magnitude t) ∧ hexValue (magnitude t) = n ∧ n ≤ largest := by
  have digits (t : Text) (nonempty : t ≠ []) : readDigits 16 largest .tooLarge 0 t = .ok n ↔
      IsHex t ∧ hexValue t = n ∧ n ≤ largest := by
    rw [readDigits_eq_ok_iff (by decide) digit?_sixteen (Nat.zero_le _), IsHex, and_iff_right nonempty]
    rfl
  rw [hex?, toOption_eq_some_iff]
  cases t with
  | nil => simp [unsigned, magnitude, IsHex]
  | cons c rest =>
    by_cases sign : c = '+'
    case pos =>
      subst sign
      cases rest with
      | nil => simp [unsigned, magnitude, IsHex]
      | cons d others => exact digits (d :: others) (List.cons_ne_nil d others)
    have whole : magnitude (c :: rest) = c :: rest := by
      rw [magnitude]
      exact fun _ same => sign (List.cons.inj same).1
    have signless : unsigned 16 largest (c :: rest) = readDigits 16 largest .tooLarge 0 (c :: rest) := by
      rw [unsigned]
      · exact nofun
      · exact fun same => sign (List.cons.inj same).1
      · exact fun _ same => sign (List.cons.inj same).1
    rw [whole, signless]
    exact digits (c :: rest) (List.cons_ne_nil c rest)

/-! ### Writing -/

def toHexDigits : (width : Nat) → Nat → Text
  | 0, _ => []
  | width + 1, n => toHexDigits width (n / 16) ++ [hexDigits.getD (n % 16) '0']

theorem length_toHexDigits (width n : Nat) : (toHexDigits width n).length = width := by
  induction width generalizing n with
  | zero => rfl
  | succ width ih => rw [toHexDigits, List.length_append, ih, List.length_singleton]

private theorem idxOf_digit : ∀ d < 16, hexDigits.idxOf (hexDigits.getD d '0').toUpper = d := by decide

theorem mem_toHexDigits {width n : Nat} {c : Char} (member : c ∈ toHexDigits width n) : c ∈ hexDigits := by
  have digit : ∀ d < 16, hexDigits.getD d '0' ∈ hexDigits := by decide
  induction width generalizing n with
  | zero => cases member
  | succ width ih =>
    rw [toHexDigits, List.mem_append, List.mem_singleton] at member
    rcases member with earlier | rfl
    · exact ih earlier
    · exact digit _ (Nat.mod_lt n (by decide))

/-- Reading the digits of a number gives back what they hold of it. -/
theorem hexValue_toHexDigits (width n : Nat) : hexValue (toHexDigits width n) = n % 16 ^ width := by
  induction width generalizing n with
  | zero => simp [toHexDigits, hexValue, hexValueFrom, Nat.mod_one]
  | succ width ih =>
    have last := idxOf_digit (n % 16) (Nat.mod_lt n (by decide))
    rw [toHexDigits, hexValue, hexValueFrom, List.foldl_append, List.foldl_cons, List.foldl_nil, last]
    have front : List.foldl _ 0 (toHexDigits width (n / 16)) = n / 16 % 16 ^ width := ih (n / 16)
    rw [front, Nat.pow_succ, Nat.mul_comm (16 ^ width), Nat.mod_mul]
    omega

theorem isHex_toHexDigits {width : Nat} (some : 0 < width) (n : Nat) : IsHex (toHexDigits width n) := by
  have capital : ∀ c ∈ hexDigits, c.toUpper ∈ hexDigits := by decide
  refine ⟨List.ne_nil_of_length_pos ?_, fun c member => capital c (mem_toHexDigits member)⟩
  rwa [length_toHexDigits]

theorem unbroken_toHexDigits {width : Nat} (some : 0 < width) (n : Nat) :
    toHexDigits width n ≠ [] ∧ ∀ c ∈ toHexDigits width n, isBlank c = false := by
  have digits : ∀ c ∈ hexDigits, isBlank c = false := by decide
  exact ⟨(isHex_toHexDigits some n).1, fun c member => digits c (mem_toHexDigits member)⟩

theorem magnitude_toHexDigits {width : Nat} (some : 0 < width) (n : Nat) :
    magnitude (toHexDigits width n) = toHexDigits width n :=
  magnitude_of_notMem (not_plus_of_isHex (isHex_toHexDigits some n))

theorem hex?_toHexDigits {width n largest : Nat} (some : 0 < width) (fits : n < 16 ^ width) (within : n ≤ largest) :
    hex? largest (toHexDigits width n) = .some n := by
  rw [hex?_eq_some_iff, magnitude_toHexDigits some, hexValue_toHexDigits, Nat.mod_eq_of_lt fits]
  exact ⟨isHex_toHexDigits some n, rfl, within⟩

end HostProbe.Integer
