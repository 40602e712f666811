import HostProbe.FreeBSD
import HostProbe.Linux
import HostProbe.MacOS
import HostProbe.NetBSD
import HostProbe.OpenBSD
import HostProbe.Proofs.Query
import HostProbe.Windows

/-! The systems that list connections, and what listing over all processes amounts to. -/
namespace HostProbe

/-- The systems that list connections, with what each has to know to do so. -/
inductive Backend
  | linux (p : Linux.Probe)
  | freebsd (p : BSD.Probe)
  | openbsd (p : BSD.Probe)
  | netbsd (p : BSD.Probe)
  | macos (p : MacOS.Probe)
  | windows (context : Context)

def Backend.platform : Backend → Platform
  | linux p => Linux.platform p
  | freebsd p => FreeBSD.platform p
  | openbsd p => OpenBSD.platform p
  | netbsd p => NetBSD.platform p
  | macos p => MacOS.platform p
  | windows context => Windows.platform context

section outcomes

variable {α β : Type}

/-- The answer of a query about a process, or nothing after any failure. -/
def held (outcome : Outcome (List α)) : List α := outcome.toOption.getD []

/-- Collecting answers that are there under a condition, and are then the values of a function. -/
theorem mapM_eq_ok_iff {f : α → Outcome β} {condition : α → Prop} {g : α → β}
    (h : ∀ x y, f x = .ok y ↔ condition x ∧ y = g x) (xs : List α) (ys : List β) :
    xs.mapM f = .ok ys ↔ (∀ x ∈ xs, condition x) ∧ ys = xs.map g := by
  induction xs generalizing ys with
  | nil => simp [pure, Except.pure, eq_comm]
  | cons x xs ih =>
    rw [List.mapM_cons, List.forall_mem_cons, List.map_cons]
    constructor
    · intro collected
      cases head : f x with
      | error fault =>
        rw [head] at collected
        cases collected
      | ok y =>
        cases tail : xs.mapM f with
        | error fault =>
          rw [head, tail] at collected
          cases collected
        | ok rest =>
          rw [head, tail] at collected
          cases collected
          obtain ⟨first, rfl⟩ := (h x y).mp head
          obtain ⟨others, rfl⟩ := (ih rest).mp tail
          exact ⟨⟨first, others⟩, rfl⟩
    · rintro ⟨⟨first, others⟩, rfl⟩
      rw [(h x (g x)).mpr ⟨first, rfl⟩, (ih (xs.map g)).mpr ⟨others, rfl⟩]
      rfl

/-- A step behind every answer can be taken behind the collection. -/
theorem mapM_map {γ : Type} (f : α → Outcome β) (g : β → γ) (xs : List α) :
    (xs.mapM fun x => (f x).map g) = (xs.mapM f).map (List.map g) := by
  induction xs with
  | nil => rfl
  | cons x xs ih =>
    rw [List.mapM_cons, List.mapM_cons, ih]
    cases f x with
    | error fault => rfl
    | ok y => cases xs.mapM f <;> rfl

/-- Everything that is collected is the answer for some element. -/
theorem exists_of_mem_mapM {f : α → Outcome β} {xs : List α} {ys : List β} (collected : xs.mapM f = .ok ys) {y : β}
    (member : y ∈ ys) : ∃ x ∈ xs, f x = .ok y := by
  induction xs generalizing ys with
  | nil =>
    cases collected
    cases member
  | cons x xs ih =>
    rw [List.mapM_cons] at collected
    cases head : f x with
    | error fault =>
      rw [head] at collected
      cases collected
    | ok first =>
      cases tail : xs.mapM f with
      | error fault =>
        rw [head, tail] at collected
        cases collected
      | ok rest =>
        rw [head, tail] at collected
        cases collected
        obtain rfl | later := List.mem_cons.mp member
        · exact ⟨x, List.mem_cons_self, head⟩
        · obtain ⟨x', within, found⟩ := ih tail later
          exact ⟨x', List.mem_cons_of_mem _ within, found⟩

end outcomes

section swallowing

variable {α β : Type} (answer : (c : Call) → c.Answer) (per : Pid → Query (List α))

/-- Asking every process fails only by an abort, and what is found is what the processes hold. -/
theorem mapM_answer?_eq_ok_iff (ids : List Pid) (found : List (Option (List α))) :
    (ids.mapM fun pid => (per pid).answer?).result answer = .ok found ↔
      (∀ pid ∈ ids, (per pid).result answer ≠ .error .abort) ∧
        found = ids.map fun pid => ((per pid).result answer).toOption := by
  rw [Query.result_mapM]
  apply mapM_eq_ok_iff
  intro pid found
  rw [Query.result_answer?]
  cases (per pid).result answer with
  | ok cs => simp [Except.toOption, eq_comm]
  | error fault => cases fault <;> simp [Except.toOption, eq_comm]

/-- What is listed over all processes is what each of them holds; only an abort of one of them ends the listing. -/
theorem connectionsOfAll_eq_ok_iff (pids : Query (List Pid)) (per : Pid → Query (List Connection))
    (all : List Connection) : (BSD.connectionsOfAll pids per).result answer = .ok all ↔
      ∃ ids, pids.result answer = .ok ids ∧ (∀ pid ∈ ids, (per pid).result answer ≠ .error .abort) ∧
        all = ids.flatMap fun pid => held ((per pid).result answer) := by
  rw [BSD.connectionsOfAll]
  constructor
  · intro listed
    obtain ⟨ids, identified, listed⟩ := Query.result_bind_ok answer listed
    obtain ⟨found, asked, listed⟩ := Query.result_bind_ok answer listed
    obtain ⟨spared, rfl⟩ := (mapM_answer?_eq_ok_iff answer per ids found).mp asked
    cases listed
    exact ⟨ids, identified, spared, by simp [List.flatMap, held, Function.comp_def]⟩
  · rintro ⟨ids, identified, spared, rfl⟩
    have asked := (mapM_answer?_eq_ok_iff answer per ids _).mpr ⟨spared, rfl⟩
    rw [Query.result_bind_of_ok answer identified, Query.result_bind_of_ok answer asked]
    simp [List.flatMap, held, Function.comp_def]

end swallowing

end HostProbe
