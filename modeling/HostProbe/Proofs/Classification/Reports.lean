import HostProbe.Proofs.Query

/-! Which errors a query may report, and that those about a process tell what is known of it once they were
classified. -/
namespace HostProbe

/-! ### Kinds of reported errors -/

section outcomes

variable {α β : Type} {kind other : Error → Prop}

/-- Every error for the caller is of a kind; aborts are not errors for a caller. -/
def Outcome.Reports (kind : Error → Prop) (outcome : Outcome α) : Prop :=
  ∀ error, outcome = .error (.report error) → kind error

namespace Outcome.Reports

theorem ok (a : α) : Outcome.Reports kind (.ok a) := nofun

theorem abort : Outcome.Reports kind (Outcome.abort : Outcome α) := nofun

theorem report {error : Error} (fits : kind error) : Outcome.Reports kind (Outcome.report error : Outcome α) := by
  rintro error ⟨⟩
  exact fits

theorem imp {outcome : Outcome α} (reports : Outcome.Reports kind outcome)
    (weaker : ∀ error, kind error → other error) : Outcome.Reports other outcome :=
  fun error failed => weaker error (reports error failed)

theorem bind {outcome : Outcome α} {f : α → Outcome β} (first : Outcome.Reports kind outcome)
    (rest : ∀ a, outcome = .ok a → Outcome.Reports kind (f a)) : Outcome.Reports kind (outcome >>= f) := by
  cases outcome with
  | error fault =>
    intro error failed
    cases failed
    exact first error rfl
  | ok a => exact rest a rfl

theorem map {outcome : Outcome α} (reports : Outcome.Reports kind outcome) (f : α → β) :
    Outcome.Reports kind (outcome.map f) := by
  cases outcome with
  | error fault =>
    intro error failed
    cases failed
    exact reports error rfl
  | ok a => exact ok _

theorem mapM {f : α → Outcome β} (each : ∀ a, Outcome.Reports kind (f a)) (as : List α) :
    Outcome.Reports kind (as.mapM f) := by
  induction as with
  | nil => exact ok _
  | cons a as ih =>
    rw [List.mapM_cons]
    exact bind (each a) fun _ _ => bind ih fun _ _ => ok _

theorem foldlM {f : β → α → Outcome β} (each : ∀ b a, Outcome.Reports kind (f b a)) (as : List α) (b : β) :
    Outcome.Reports kind (as.foldlM f b) := by
  induction as generalizing b with
  | nil => exact ok _
  | cons a as ih =>
    rw [List.foldlM_cons]
    exact bind (each b a) fun next _ => ih next

theorem ofOption {error : Error} (fits : kind error) (a? : Option α) :
    Outcome.Reports kind (Outcome.ofOption error a?) := by
  cases a? with
  | none => exact report fits
  | some a => exact ok a

end Outcome.Reports

/-- Words that overflow abort. -/
theorem Word.reports_mul (a b : Nat) : (mul a b).Reports kind := by
  unfold mul check
  split
  · exact .ok _
  · exact .abort

theorem Word.reports_add (a b : Nat) : (add a b).Reports kind := by
  unfold add check
  split
  · exact .ok _
  · exact .abort

end outcomes

namespace Query

variable {α β : Type} {answer : (c : Call) → c.Answer} {kind other : Error → Prop}

/-- Every error that the query reports is of a kind. -/
def Reports (answer : (c : Call) → c.Answer) (kind : Error → Prop) (query : Query α) : Prop :=
  (query.result answer).Reports kind

/-- The error of an attempt is the one that was reported. -/
theorem result_of_attempt_error {query : Query α} {error : Error}
    (attempted : query.attempt.result answer = .ok (.error error)) : query.result answer = .error (.report error) := by
  rw [result_attempt] at attempted
  split at attempted
  · cases attempted
  · rename_i reported
    cases attempted
    exact reported
  · cases attempted

namespace Reports

theorem pure (a : α) : (pure a : Query α).Reports answer kind := .ok a

theorem throw {fault : Fault} (fits : ∀ error, fault = .report error → kind error) :
    (throw fault : Query α).Reports answer kind := by
  rintro error ⟨⟩
  exact fits error rfl

theorem report {error : Error} (fits : kind error) : (Query.report error : Query α).Reports answer kind :=
  Outcome.Reports.report fits

theorem lift {outcome : Outcome α} (reports : outcome.Reports kind) : (Query.lift outcome).Reports answer kind :=
  reports

theorem ofProgram (p : Program α) : (liftM p : Query α).Reports answer kind := by
  rw [Reports, result_ofProgram]
  exact .ok _

theorem imp {query : Query α} (reports : query.Reports answer kind) (weaker : ∀ error, kind error → other error) :
    query.Reports answer other := Outcome.Reports.imp reports weaker

theorem bind {query : Query α} {f : α → Query β} (first : query.Reports answer kind)
    (rest : ∀ a, query.result answer = .ok a → (f a).Reports answer kind) : (query >>= f).Reports answer kind := by
  rw [Reports, result_bind]
  exact Outcome.Reports.bind first rest

theorem mapM {f : α → Query β} (each : ∀ a, (f a).Reports answer kind) (as : List α) :
    (as.mapM f).Reports answer kind := by
  rw [Reports, result_mapM]
  exact Outcome.Reports.mapM each as

/-- What is reported to the query itself is not reported to its caller. -/
theorem attempt (query : Query α) : query.attempt.Reports answer kind := by
  rw [Reports, result_attempt]
  split
  · exact .ok _
  · exact .ok _
  · exact .abort

theorem answer? (query : Query α) : query.answer?.Reports answer kind := .bind (.attempt query) fun _ _ => .pure _

end Reports

end Query

/-! ### What is known of a process -/

namespace Error

/-- Errors of calls and unreadable records, which do not tell what became of the process. -/
inductive Raw : Error → Prop
  | os (call : String) (cause : IoError) : Raw (.os call cause)
  | processOs (pid : Pid) (call : String) (cause : IoError) : Raw (.processOs pid call cause)
  | parse (path detail : String) : Raw (.parse path detail)

/-- Errors that agree with whether a process is there and whether it is a zombie. -/
inductive Explained (pid : Pid) : (present zombie : Bool) → Error → Prop
  | gone (zombie : Bool) : Explained pid false zombie (.notFound pid)
  | zombie : Explained pid true true (.zombieProcess pid)
  | denied (call : String) : Explained pid true false (.permissionDenied pid call)
  | failed (call : String) (cause : IoError) : Explained pid true false (.processOs pid call cause)
  | unreadable (path detail : String) : Explained pid true false (.parse path detail)

end Error

namespace Liveness

variable {α : Type} {answer : (c : Call) → c.Answer} {live : Liveness Program} {pid : Pid}

/-- An error about a process agrees with what is known of it. -/
def Explains (live : Liveness Program) (answer : (c : Call) → c.Answer) (pid : Pid) (error : Error) : Prop :=
  error.Explained pid ((live.pidExists pid).eval answer) ((live.isZombie pid).eval answer)

/-- No process has a negative identifier. -/
def Natural (live : Liveness Program) (answer : (c : Call) → c.Answer) : Prop :=
  ∀ pid < 0, (live.pidExists pid).eval answer = false

/-- The error of a failed call is explained once it is classified. -/
theorem explains_classify (natural : live.Natural answer) (call : String) (cause : IoError) :
    live.Explains answer pid ((live.classify pid call cause).eval answer) := by
  rw [classify, Explains]
  split
  · rename_i negative
    rw [natural pid negative]
    exact .gone _
  · rw [Program.eval_bind]
    cases (live.pidExists pid).eval answer with
    | false => exact .gone _
    | true =>
      simp only [Bool.not_true, Bool.false_eq_true, if_false, Program.eval_bind]
      cases (live.isZombie pid).eval answer with
      | true => exact .zombie
      | false =>
        simp only [Bool.false_eq_true, if_false]
        split
        · exact .denied call
        · exact .failed call cause

/-- The error of a call, or of a record that cannot be read, is explained once it is classified. -/
theorem explains_reclassify (natural : live.Natural answer) {error : Error} (raw : error.Raw) :
    live.Explains answer pid ((live.reclassify pid error).eval answer) := by
  cases raw with
  | os call cause => exact explains_classify natural call cause
  | processOs other call cause => exact explains_classify natural call cause
  | parse path detail =>
    rw [reclassify, Explains, Program.eval_bind]
    cases (live.pidExists pid).eval answer with
    | false => exact .gone _
    | true =>
      simp only [Bool.not_true, Bool.false_eq_true, if_false, Program.eval_bind]
      cases (live.isZombie pid).eval answer with
      | true => exact .zombie
      | false => exact .unreadable path detail

end Liveness

namespace Query.Reports

variable {α : Type} {answer : (c : Call) → c.Answer} {live : Liveness Program} {pid : Pid}

/-- Classified errors are explained. -/
theorem classifyFor (natural : live.Natural answer) {query : Query α} (raw : query.Reports answer Error.Raw) :
    Query.Reports answer (live.Explains answer pid) (live.classifyFor pid query) := by
  rw [Reports, result_classifyFor]
  intro error failed
  split at failed
  · rename_i cause reported
    cases failed
    exact live.explains_reclassify natural (raw cause reported)
  · rename_i ended
    exact absurd failed (ended error)

theorem fail (natural : live.Natural answer) (call : String) (cause : IoError) :
    Query.Reports answer (live.Explains answer pid) (live.fail pid call cause : Query α) := by
  refine .bind (.ofProgram _) fun error classified => .throw ?_
  rintro error ⟨⟩
  rw [result_ofProgram] at classified
  cases classified
  exact live.explains_classify natural call cause

/-- The error about a negative identifier is explained, as there is no such process. -/
theorem checkPid (natural : live.Natural answer) :
    Query.Reports answer (live.Explains answer pid) (Query.lift (HostProbe.checkPid pid)) := by
  refine .lift ?_
  unfold HostProbe.checkPid
  split
  · rename_i negative
    refine .report ?_
    rw [Liveness.Explains, natural pid negative]
    exact .gone _
  · exact .ok _

end Query.Reports

theorem Query.result_checkPid {answer : (c : Call) → c.Answer} {pid : Pid} (natural : 0 ≤ pid) :
    (Query.lift (checkPid pid)).result answer = .ok () := by
  rw [result_lift, checkPid, if_neg (Int.not_lt.mpr natural)]

/-! ### Processes that are gone -/

/-- The query fails with nothing but that there is no such process. -/
def Query.Misses {α : Type} (answer : (c : Call) → c.Answer) (pid : Pid) (query : Query α) : Prop :=
  query.result answer = .error (.report (.notFound pid))

namespace Query.Misses

variable {α β : Type} {answer : (c : Call) → c.Answer} {live : Liveness Program} {pid : Pid}

/-- Where a process is gone, nothing else explains an error. -/
theorem of_explained (gone : (live.pidExists pid).eval answer = false) {query : Query α} {error : Error}
    (failed : query.result answer = .error (.report error)) (explained : live.Explains answer pid error) :
    query.Misses answer pid := by
  rw [Liveness.Explains, gone] at explained
  cases explained
  exact failed

theorem bind {first : Query α} (misses : first.Misses answer pid) (rest : α → Query β) :
    (first >>= rest).Misses answer pid := by
  rw [Misses, result_bind, misses]
  rfl

theorem after {first : Query α} {a : α} (passed : first.result answer = .ok a) {rest : α → Query β}
    (misses : (rest a).Misses answer pid) : (first >>= rest).Misses answer pid := by
  rw [Misses, result_bind_of_ok answer passed]
  exact misses

theorem checked (natural : 0 ≤ pid) {rest : Unit → Query β} (misses : (rest ()).Misses answer pid) :
    (Query.lift (checkPid pid) >>= rest).Misses answer pid := .after (result_checkPid natural) misses

theorem classifyFor (natural : live.Natural answer) (gone : (live.pidExists pid).eval answer = false)
    {query : Query α} {error : Error} (raw : error.Raw) (failed : query.result answer = .error (.report error)) :
    Query.Misses answer pid (live.classifyFor pid query) := by
  refine .of_explained gone ?_ (live.explains_reclassify natural raw)
  rw [result_classifyFor, failed]

theorem fail (natural : live.Natural answer) (gone : (live.pidExists pid).eval answer = false) (call : String)
    (cause : IoError) : Query.Misses answer pid (live.fail pid call cause : Query α) := by
  refine .of_explained gone ?_ (live.explains_classify natural call cause)
  rw [Liveness.fail, result_bind, result_ofProgram]
  rfl

end Query.Misses

end HostProbe
