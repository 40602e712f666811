import HostProbe.Error

/-! Machine words as natural numbers: sums, products and differences that abort when they leave the word, their
saturating forms, and the signed reading of a word. -/
namespace HostProbe.Word

def span : Nat := 1 <<< 64

def top : Nat := 0xffffffffffffffff

def check (n : Nat) : Outcome Nat := if n < span then .ok n else Outcome.abort

def add (a b : Nat) : Outcome Nat := check (a + b)

def mul (a b : Nat) : Outcome Nat := check (a * b)

/-- Aborts below zero. -/
def sub (a b : Nat) : Outcome Nat := if b ≤ a then .ok (a - b) else Outcome.abort

def checkSigned (bits : Nat) (n : Int) : Outcome Int :=
  if -((1 <<< (bits - 1) : Nat) : Int) ≤ n ∧ n < (1 <<< (bits - 1) : Nat) then .ok n else Outcome.abort

def saturatingAdd (a b : Nat) : Nat := min (a + b) top

def saturatingMul (a b : Nat) : Nat := min (a * b) top

def ofInt (bits : Nat) (n : Int) : Nat := (n % (1 <<< bits : Nat)).toNat

def toInt (bits : Nat) (n : Nat) : Int := Int.bmod n (1 <<< bits)

theorem check_eq_ok_iff {n m : Nat} : check n = .ok m ↔ n = m ∧ n < span := by
  by_cases h : n < span <;> simp [check, Outcome.abort, h]

theorem sub_eq_ok_iff {a b m : Nat} : sub a b = .ok m ↔ b ≤ a ∧ a - b = m := by
  by_cases h : b ≤ a <;> simp [sub, Outcome.abort, h]

/-- Read as signed, a word is never more than it is as unsigned. -/
theorem toInt_le_ofInt (bits n : Nat) : toInt bits n ≤ ofInt bits (toInt bits n) := by
  have positive : 0 < ((1 <<< bits : Nat) : Int) := by
    rw [Nat.one_shiftLeft]
    exact_mod_cast Nat.two_pow_pos bits
  have nonneg := Int.emod_nonneg (n : Int) (Int.ne_of_gt positive)
  rw [ofInt, toInt, Int.bmod_emod, Int.toNat_of_nonneg nonneg, Int.bmod]
  split
  · exact Int.le_refl _
  · omega

end HostProbe.Word
