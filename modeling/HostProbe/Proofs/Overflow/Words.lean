import HostProbe.Word

/-! Computations that give up where a number would leave its word. -/
namespace HostProbe

namespace Outcome

variable {α β : Type}

theorem bind_eq_abort_iff {outcome : Outcome α} {rest : α → Outcome β} :
    (outcome >>= rest) = .error .abort ↔
      outcome = .error .abort ∨ ∃ a, outcome = .ok a ∧ rest a = .error .abort := by
  cases outcome with
  | ok a => exact ⟨fun later => .inr ⟨a, rfl, later⟩, fun | .inr ⟨_, rfl, later⟩ => later⟩
  | error fault => exact ⟨fun now => .inl (congrArg Except.error (Except.error.inj now)), fun | .inl now => now ▸ rfl⟩

/-- A step that succeeds hands its result on. -/
theorem bind_of_ok {outcome : Outcome α} {rest : α → Outcome β} {a : α} (given : outcome = .ok a) :
    (outcome >>= rest) = rest a := by
  rw [given]
  rfl

theorem ok_ne_abort (a : α) : (pure a : Outcome α) ≠ .error .abort := nofun

theorem report_ne_abort (error : Error) : (report error : Outcome α) ≠ .error .abort := nofun

theorem bind_pure_eq_abort_iff {outcome : Outcome α} {g : α → β} :
    (outcome >>= fun a => pure (g a)) = .error .abort ↔ outcome = .error .abort := by
  rw [bind_eq_abort_iff]
  exact or_iff_left fun ⟨a, _, ended⟩ => ok_ne_abort _ ended

/-- Of a list, all before the one that gives up are read. -/
theorem mapM_eq_abort_iff {f : α → Outcome β} {xs : List α} : xs.mapM f = .error .abort ↔
    ∃ before x after, xs = before ++ x :: after ∧ (∀ y ∈ before, ∃ b, f y = .ok b) ∧ f x = .error .abort := by
  induction xs with
  | nil =>
    refine ⟨nofun, ?_⟩
    rintro ⟨before, x, after, split, -⟩
    simp at split
  | cons x xs ih =>
    have others : (do
        let b ← f x
        let bs ← xs.mapM f
        pure (b :: bs)) = .error .abort ↔ f x = .error .abort ∨ ∃ b, f x = .ok b ∧ xs.mapM f = .error .abort := by
      rw [bind_eq_abort_iff]
      exact or_congr_right (exists_congr fun b => and_congr_right fun _ => bind_pure_eq_abort_iff)
    rw [List.mapM_cons, others, ih]
    constructor
    · rintro (now | ⟨b, read, before, y, after, rfl, earlier, later⟩)
      · exact ⟨[], x, xs, rfl, nofun, now⟩
      · exact ⟨x :: before, y, after, rfl, List.forall_mem_cons.mpr ⟨⟨b, read⟩, earlier⟩, later⟩
    · rintro ⟨before, y, after, split, earlier, gives⟩
      cases before with
      | nil =>
        obtain ⟨rfl, rfl⟩ := List.cons.inj split
        exact .inl gives
      | cons z before =>
        obtain ⟨rfl, rfl⟩ := List.cons.inj split
        obtain ⟨⟨b, read⟩, others⟩ := List.forall_mem_cons.mp earlier
        exact .inr ⟨b, read, before, y, after, rfl, others, gives⟩

/-- Of a list, all can be read. -/
theorem mapM_eq_ok {f : α → Outcome β} {g : α → β} {xs : List α} (each : ∀ x ∈ xs, f x = .ok (g x)) :
    xs.mapM f = .ok (xs.map g) := by
  induction xs with
  | nil => rfl
  | cons x xs ih =>
    rw [List.mapM_cons, each x List.mem_cons_self, ih fun y member => each y (List.mem_cons_of_mem x member)]
    rfl

end Outcome

namespace Word

theorem add_of_lt {a b : Nat} (fits : a + b < span) : add a b = .ok (a + b) := if_pos fits

theorem mul_of_lt {a b : Nat} (fits : a * b < span) : mul a b = .ok (a * b) := if_pos fits

theorem check_eq_abort_iff {n : Nat} : check n = .error .abort ↔ span ≤ n := by
  rw [check]
  split
  case isTrue fits =>
    refine ⟨?_, fun excess => absurd fits (Nat.not_lt.mpr excess)⟩
    rintro ⟨⟩
  case isFalse excess => exact ⟨fun _ => Nat.not_lt.mp excess, fun _ => rfl⟩

section bind

variable {α : Type} {a b n : Nat} {rest : Nat → Outcome α}

/-- What follows is told from the exact number, since it does not matter where the number is too large. -/
theorem bind_check_eq_abort_iff : (check n >>= rest) = .error .abort ↔ span ≤ n ∨ rest n = .error .abort := by
  by_cases fits : n < span
  · have checked : check n = .ok n := if_pos fits
    rw [checked, or_iff_right (Nat.not_le.mpr fits)]
    rfl
  · rw [check_eq_abort_iff.mpr (Nat.not_lt.mp fits)]
    exact ⟨fun _ => .inl (Nat.not_lt.mp fits), fun _ => rfl⟩

theorem bind_add_eq_abort_iff : (add a b >>= rest) = .error .abort ↔ span ≤ a + b ∨ rest (a + b) = .error .abort :=
  bind_check_eq_abort_iff

theorem bind_mul_eq_abort_iff : (mul a b >>= rest) = .error .abort ↔ span ≤ a * b ∨ rest (a * b) = .error .abort :=
  bind_check_eq_abort_iff

end bind

end Word

end HostProbe
