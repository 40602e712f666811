import HostProbe.Footprint.Smaps
import HostProbe.Proofs.Footprint.Scanner

/-! What the sums over the lines of a file come to, said of its contents alone. A file may also fail before its end is
reached; then what no newline ends is not a line. -/
namespace HostProbe.Footprint

open Scanner (capacity linesOf lineOf overlong)

def takeLine (t : Totals) (line : Bytes) : FootprintOutcome Totals :=
  if capacity ≤ line.length then .error (.report overlong)
  else
    match t.observe line with
    | .ok t => .ok t
    | .error _ => .error .abort

/-- Sums the lines of a file: all there are, or those that come whole before the fault. A rest that fills the buffer
is an overlong line before it is a fault. -/
def sums (fault : Option IoError) (content : Bytes) (t : Totals) : FootprintOutcome Totals :=
  match fault with
  | none => (linesOf content).foldlM takeLine t
  | some cause => do
    let _ ← (content.splitOn 10).dropLast.foldlM takeLine t
    .error (.report (if capacity ≤ ((content.splitOn 10).getLast?.getD []).length then overlong else cause))

theorem takeLine_of_long {line : Bytes} (long : capacity ≤ line.length) (t : Totals) :
    takeLine t line = .error (.report overlong) :=
  if_pos long

theorem takeLine_of_short {line : Bytes} (short : line.length < capacity) (t : Totals) :
    takeLine t line = match t.observe line with
      | .ok t => .ok t
      | .error _ => .error .abort :=
  if_neg (Nat.not_le.mpr short)

/-- Short lines whose amounts can be summed are summed. -/
theorem foldlM_takeLine {lines : List Bytes} (short : ∀ line ∈ lines, line.length < capacity) {t last : Totals}
    (summed : lines.foldlM Totals.observe t = .ok last) : lines.foldlM takeLine t = .ok last := by
  induction lines generalizing t with
  | nil =>
    obtain rfl : t = last := Except.ok.inj summed
    rfl
  | cons line lines ih =>
    rw [List.foldlM_cons] at summed ⊢
    rw [takeLine_of_short (short line List.mem_cons_self)]
    cases observed : t.observe line with
    | error fault =>
      rw [observed] at summed
      cases summed
    | ok middle =>
      rw [observed] at summed
      exact ih (fun l member => short l (List.mem_cons_of_mem _ member)) summed

/-- A line that is handed out is taken before the others. -/
theorem sums_eq {fault : Option IoError} {rest : Bytes} (nonempty : rest ≠ [])
    (whole : fault = none ∨ lineOf rest ≠ rest) (t : Totals) :
    sums fault rest t =
      takeLine t (lineOf rest) >>= sums fault (rest.drop ((lineOf rest).length + 1)) := by
  cases fault with
  | none => exact (congrArg (List.foldlM takeLine t) (Scanner.linesOf_eq nonempty)).trans List.foldlM_cons
  | some cause =>
    obtain ⟨after, split⟩ :=
      (Scanner.lineOf_cases rest).resolve_right fun last => whole.resolve_left nofun last.symm
    have single := Scanner.notMem_lineOf rest
    generalize lineOf rest = line at *
    subst split
    have more : after.splitOn 10 ≠ [] := List.splitOnP_ne_nil _ after
    have dropped : (line ++ 10 :: after).drop (line.length + 1) = after := by
      simp [List.drop_append, List.drop_eq_nil_of_le]
    simp only [sums, Scanner.splitOn_cons single, dropped, List.dropLast_cons_of_ne_nil more,
      List.getLast?_cons_of_ne_nil more, List.foldlM_cons, bind_assoc]
    rfl

/-- What no newline ends is not taken before a fault. -/
theorem sums_of_fault {cause : IoError} {rest : Bytes} (single : lineOf rest = rest) (t : Totals) :
    sums (some cause) rest t = .error (.report (if capacity ≤ rest.length then overlong else cause)) := by
  have apart : 10 ∉ rest := single ▸ Scanner.notMem_lineOf rest
  simp only [sums, Scanner.splitOn_of_notMem apart]
  rfl

end HostProbe.Footprint
