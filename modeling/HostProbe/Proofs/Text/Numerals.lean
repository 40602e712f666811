import HostProbe.Number.Integer

/-! Numerals in any base: which digits are read behind a number, and what they come to. -/
namespace HostProbe.Integer

def valueFrom (base : Nat) (valueOf : Char → Nat) (value : Nat) (digits : Text) : Nat :=
  digits.foldl (fun n c => n * base + valueOf c) value

theorem le_valueFrom {base : Nat} (positive : 0 < base) (valueOf : Char → Nat) (value : Nat) (digits : Text) :
    value ≤ valueFrom base valueOf value digits := by
  induction digits generalizing value with
  | nil => exact Nat.le_refl value
  | cons c rest ih =>
    calc value
        ≤ value * base := Nat.le_mul_of_pos_right value positive
      _ ≤ value * base + valueOf c := Nat.le_add_right _ _
      _ ≤ valueFrom base valueOf value (c :: rest) := ih _

section digits

variable {base : Nat} {isDigit : Char → Prop} [DecidablePred isDigit] {valueOf : Char → Nat} (positive : 0 < base)
  (digits : ∀ c, digit? base c = if isDigit c then some (valueOf c) else none)

include positive digits

/-- Digits behind a number are read if there are no other characters and the whole is not too large. -/
theorem readDigits_eq_ok_iff {largest value n : Nat} {overflow : IntegerFault} {t : Text} (within : value ≤ largest) :
    readDigits base largest overflow value t = .ok n ↔
      (∀ c ∈ t, isDigit c) ∧ valueFrom base valueOf value t = n ∧ n ≤ largest := by
  -- Every number on the way is within the bound if the last is, since digits only make it larger.
  induction t generalizing value with
  | nil =>
    simp only [readDigits, valueFrom, List.foldl_nil, Except.ok.injEq, List.not_mem_nil, false_implies, implies_true,
      true_and]
    exact ⟨fun same => ⟨same, same ▸ within⟩, And.left⟩
  | cons c rest ih =>
    rw [readDigits, digits, List.forall_mem_cons]
    by_cases digit : isDigit c
    case neg => simp [digit]
    rw [if_pos digit, and_iff_right digit]
    dsimp only
    by_cases fits : value * base + valueOf c ≤ largest
    case pos =>
      rw [if_pos fits, ih fits]
      rfl
    have grown := le_valueFrom positive valueOf (value * base + valueOf c) rest
    rw [if_neg fits]
    constructor
    · rintro ⟨⟩
    · rintro ⟨-, rfl, bounded⟩
      exact absurd (Nat.le_trans grown bounded) fits

end digits

theorem toOption_eq_some_iff {ε α : Type} {read : Except ε α} {a : α} : read.toOption = some a ↔ read = .ok a := by
  cases read <;> simp [Except.toOption]

end HostProbe.Integer
