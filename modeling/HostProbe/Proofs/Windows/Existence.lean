import HostProbe.Host
import HostProbe.Proofs.Classification.Reports
import HostProbe.Windows.Processes

/-! Two ways to find out whether a Windows process exists: the check for existence, and the check that comes with
opening it. They decide from the same facts, but not in the same way. -/
namespace HostProbe.Windows

variable (answer : (c : Call) → c.Answer) (context : Context) (pid : Pid)

/-! ### Facts about a process -/

def opening (rights : Nat) : Except IoError Unit := answer (.windows (.openProcess pid rights))

def ending : Except IoError Nat := answer (.windows (.exitCode pid))

/-- Whether the process has an exit code that no running process has. -/
def exited : Bool :=
  match ending answer pid with
  | .ok code => decide (code ≠ stillActive)
  | .error _ => false

def listed : Bool := (isListed context pid).eval answer

/-- What a request finds does not hang on the rights in it: what is granted is granted with fewer of them, and what
is missing is missing for all. -/
structure Coherent (access : Nat) : Prop where
  fewer : opening answer pid (access ||| Access.queryLimited) = .ok () →
    opening answer pid Access.queryLimited = .ok ()
  missing : opening answer pid (access ||| Access.queryLimited) = .error (.number invalidParameter) ↔
    opening answer pid Access.queryLimited = .error (.number invalidParameter)

variable {answer context pid} {access : Nat}

/-! ### The two checks -/

private theorem eval_opening (rights : Nat) :
    (Ask.windows (.openProcess pid rights)).eval answer = opening answer pid rights := rfl

/-- The check for existence denies what has exited, and looks for the rest in the list. -/
theorem eval_pidExists (positive : 0 < pid) : (pidExists context pid).eval answer =
    match opening answer pid Access.queryLimited with
    | .ok () => !exited answer pid && listed answer context pid
    | .error cause =>
      if cause.kind = .permissionDenied then true
      else if cause = .number invalidParameter then false else listed answer context pid := by
  rw [pidExists, if_neg (Int.not_lt.mpr (Int.le_of_lt positive)), if_neg (Int.ne_of_gt positive), Program.eval_bind,
    eval_opening]
  cases opening answer pid Access.queryLimited with
  | ok =>
    have code : (Ask.windows (.exitCode pid)).eval answer = ending answer pid := rfl
    simp only [Program.eval_bind, code, exited, listed]
    cases ending answer pid with
    | error cause => rfl
    | ok n =>
      by_cases running : n = stillActive
      · simp only [running, ne_eq, not_true_eq_false, if_false, decide_false, Bool.not_false, Bool.true_and]
      · simp only [running, ne_eq, not_false_eq_true, if_true, decide_true, Bool.not_true, Bool.false_and]
        rfl
  | error cause =>
    simp only [apply_ite (Program.eval answer)]
    rfl

/-- The check that comes with a handle looks only for what has exited in the list. -/
theorem result_openProcess (positive : 0 < pid) : (openProcess context pid access).result answer =
    match opening answer pid (access ||| Access.queryLimited) with
    | .ok () => if exited answer pid && !listed answer context pid then .error (.report (.notFound pid)) else .ok ()
    | .error cause => .error (.report (if cause = .number invalidParameter then .notFound pid
        else ((live context).classify pid "OpenProcess" cause).eval answer)) := by
  have checked : (Query.lift (checkPid pid)).result answer = .ok () := if_neg (Int.not_lt.mpr (Int.le_of_lt positive))
  have asked : (liftM (Ask.windows (.openProcess pid (access ||| Access.queryLimited))) : Query _).result answer =
      .ok (opening answer pid (access ||| Access.queryLimited)) := Query.result_ofProgram answer _
  rw [openProcess, Query.result_bind_of_ok answer checked]
  simp only [Int.ne_of_gt positive, if_false]
  rw [Query.result_bind_of_ok answer asked]
  cases opening answer pid (access ||| Access.queryLimited) with
  | ok =>
    have code : (liftM (Ask.windows (.exitCode pid)) : Query _).result answer = .ok (ending answer pid) :=
      Query.result_ofProgram answer _
    have sought : (liftM (isListed context pid) : Query Bool).result answer = .ok (listed answer context pid) :=
      Query.result_ofProgram answer _
    cases told : ending answer pid with
    | error cause =>
      rw [Query.result_bind_of_ok answer (code.trans (congrArg _ told)), exited, told]
      rfl
    | ok n =>
      rw [Query.result_bind_of_ok answer (code.trans (congrArg _ told)), exited, told]
      by_cases running : n = stillActive
      · simp only [running, ne_eq, not_true_eq_false, if_false, decide_false, Bool.false_and, Bool.false_eq_true]
        rfl
      · simp only [running, ne_eq, not_false_eq_true, if_true, decide_true, Bool.true_and]
        rw [Query.result_bind_of_ok answer sought]
        cases listed answer context pid <;> rfl
  | error cause =>
    by_cases missing : cause = .number invalidParameter
    · simp only [missing, if_true]
      rfl
    · simp only [missing, if_false]
      rw [Liveness.fail, Query.result_bind, Query.result_ofProgram]
      rfl

/-- A failure that is classified tells of a missing process where the check for existence denies it. -/
theorem classify_eq_notFound (natural : 0 ≤ pid) (call : String) (cause : IoError) :
    ((live context).classify pid call cause).eval answer = .notFound pid ↔
      (pidExists context pid).eval answer = false := by
  simp only [Liveness.classify, Int.not_lt.mpr natural, if_false, Program.eval_bind, live]
  cases (pidExists context pid).eval answer with
  | false => exact iff_of_true rfl rfl
  | true =>
    refine iff_of_false (fun gone => ?_) Bool.noConfusion
    simp only [Bool.not_true, Bool.false_eq_true, if_false] at gone
    change Program.eval answer (if cause.kind = .permissionDenied then .done _ else .done _) = _ at gone
    split at gone <;> cases gone

/-! ### Where they part -/

/-- A process that is opened although it is not there: it has an exit code and is still listed, or it has none that
tells and is no longer listed. -/
structure Lingers (answer : (c : Call) → c.Answer) (context : Context) (pid : Pid) (access : Nat) : Prop where
  positive : 0 < pid
  opened : opening answer pid (access ||| Access.queryLimited) = .ok ()
  torn : exited answer pid = listed answer context pid

/-- Opening a process fails for want of it where the check for existence denies it, unless the process lingers. One
that lingers is denied and opened. -/
theorem openProcess_notFound_iff (natural : 0 ≤ pid) (coherent : Coherent answer pid access) :
    ((openProcess context pid access).result answer = .error (.report (.notFound pid)) ↔
        (pidExists context pid).eval answer = false ∧ ¬ Lingers answer context pid access) ∧
      (Lingers answer context pid access → (pidExists context pid).eval answer = false ∧
        (openProcess context pid access).result answer = .ok ()) := by
  rcases Int.le_iff_eq_or_lt.mp natural with rfl | positive
  · have found : (pidExists context 0).eval answer = true := rfl
    have closed : (openProcess context 0 access).result answer =
        .error (.report (.permissionDenied 0 "OpenProcess")) := rfl
    refine ⟨?_, fun lingers => absurd lingers.positive (Int.lt_irrefl 0)⟩
    rw [found, closed]
    exact iff_of_false nofun nofun
  rw [result_openProcess positive]
  cases first : opening answer pid (access ||| Access.queryLimited) with
  | ok =>
    have lingers : Lingers answer context pid access ↔ exited answer pid = listed answer context pid :=
      ⟨Lingers.torn, fun torn => ⟨positive, first, torn⟩⟩
    rw [eval_pidExists positive, coherent.fewer first, lingers]
    cases exited answer pid <;> cases listed answer context pid <;> simp
  | error cause =>
    have granted : ¬ Lingers answer context pid access := fun lingers => nomatch first.symm.trans lingers.opened
    refine ⟨?_, fun lingers => absurd lingers granted⟩
    simp only [granted, not_false_eq_true, and_true, Except.error.injEq, Failure.report.injEq]
    by_cases missing : cause = .number invalidParameter
    · have denied : (pidExists context pid).eval answer = false := by
        rw [eval_pidExists positive, coherent.missing.mp (missing ▸ first)]
        rfl
      rw [if_pos missing]
      exact iff_of_true rfl denied
    · rw [if_neg missing]
      exact classify_eq_notFound natural _ _

/-- A host that opens every process and tells the same exit code of each. Only the process that idles is listed. -/
def heldOpen (code : Nat) : (c : Call) → c.Answer
  | .windows (.system ..) => { length := 256, bytes := List.replicate 256 0 }
  | .windows (.openProcess ..) => .ok ()
  | .windows (.exitCode _) => .ok code
  | c => Host.reply {} c

theorem coherent_heldOpen (code : Nat) (pid : Pid) (access : Nat) : Coherent (heldOpen code) pid access :=
  ⟨fun _ => rfl, iff_of_false nofun nofun⟩

/-- A process with the exit code 3 that others hold open is gone. -/
theorem openProcess_notFound_iff_heldOpen : (0 : Pid) ≤ 42 ∧ Coherent (heldOpen 3) 42 Access.queryLimited ∧
    (openProcess {} 42 Access.queryLimited).result (heldOpen 3) = .error (.report (.notFound 42)) := by
  have natural : (0 : Pid) ≤ 42 := by decide
  have coherent := coherent_heldOpen 3 42 Access.queryLimited
  have denied : (pidExists {} 42).eval (heldOpen 3) = false := by decide +kernel
  have unlisted : exited (heldOpen 3) 42 ≠ listed (heldOpen 3) {} 42 := by decide +kernel
  exact ⟨natural, coherent,
    (openProcess_notFound_iff natural coherent).1.mpr ⟨denied, fun lingers => unlisted lingers.torn⟩⟩

/-- A process that is no longer listed is denied and still opened, where its exit code is the one of running
processes. -/
theorem denied_process_opened : 
    ((processes {}).result (heldOpen stillActive)).map (List.map ProcessEntry.pid) = .ok [0] ∧
    (pidExists {} 42).eval (heldOpen stillActive) = false ∧
    (openProcess {} 42 Access.queryLimited).result (heldOpen stillActive) = .ok () := by
  refine ⟨?_, ?_, ?_⟩ <;> decide +kernel

end HostProbe.Windows
