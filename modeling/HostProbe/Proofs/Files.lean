import HostProbe.Procfs.Tree
import HostProbe.Proofs.Query

/-! Results of queries that ask for files below a root. -/
namespace HostProbe

namespace Ask

variable (answer : (c : Call) → c.Answer)

@[simp] theorem eval_file (c : FileCall) : (file c).eval answer = answer (.file c) := rfl

theorem eval_readText_of_error {path : String} {cause : IoError} (unread : answer (.file (.read path)) = .error cause) :
    (readText path).eval answer = .error cause := by
  rw [readText, Program.eval_bind, eval_file, unread]
  rfl

end Ask

namespace Query

variable {α : Type} (answer : (c : Call) → c.Answer)

@[simp] theorem result_onPath (call path : String) (question : Program (Except IoError α)) :
    (onPath call path question).result answer = match question.eval answer with
      | .ok a => .ok a
      | .error cause => .error (.report (pathError call path cause)) := by
  rw [onPath, result_bind, result_ofProgram]
  cases question.eval answer <;> rfl

end Query

namespace Procfs

variable (answer : (c : Call) → c.Answer)

theorem list_eq_ok_iff (path : String) (names : List String) :
    (list path).result answer = .ok names ↔ answer (.file (.list path)) = .ok names := by
  rw [list, Query.result_onPath, Ask.eval_file]
  cases answer (.file (.list path)) <;> simp

/-- Processes are the numerals among the names below the root, in ascending order. -/
theorem pids_eq_ok_iff (fs : Procfs) (ids : List Pid) :
    fs.pids.result answer = .ok ids ↔ ∃ names, answer (.file (.list fs.root)) = .ok names ∧
      ids = (names.filterMap pidOfName?).mergeSort (· ≤ ·) := by
  constructor
  · intro identified
    obtain ⟨names, asked, listed⟩ := Query.result_bind_ok answer identified
    cases listed
    exact ⟨names, (list_eq_ok_iff answer _ _).mp asked, rfl⟩
  · rintro ⟨names, asked, rfl⟩
    rw [pids, Query.result_bind_of_ok answer ((list_eq_ok_iff answer _ _).mpr asked)]
    rfl

end Procfs
end HostProbe
