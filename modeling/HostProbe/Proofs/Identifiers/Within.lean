import HostProbe.Growth
import HostProbe.Liveness
import HostProbe.Procfs.Tree
import HostProbe.Proofs.Endings

/-! Which questions a query can come to, whatever it is answered. A query stays within some questions if every one
on every branch of its tree is among them; each way of putting queries together keeps within. -/
namespace HostProbe

variable {α β ε σ : Type} {allowed : Call → Prop}

/-! ### Programs -/

namespace Program

/-- Whatever the answers are, no question is asked but an allowed one. -/
def Within (allowed : Call → Prop) : Program α → Prop
  | done _ => True
  | ask c next => allowed c ∧ ∀ answer, (next answer).Within allowed

namespace Within

theorem pure (a : α) : (pure a : Program α).Within allowed := trivial

theorem call {c : Call} (allows : allowed c) : (Program.call c).Within allowed := ⟨allows, fun _ => trivial⟩

theorem bind {p : Program α} {f : α → Program β} (first : p.Within allowed) (rest : ∀ a, (f a).Within allowed) :
    (p >>= f).Within allowed := by
  induction p with
  | done a => exact rest a
  | ask c next ih => exact ⟨first.1, fun answer => ih answer (first.2 answer)⟩

theorem ite {P : Prop} [Decidable P] {first second : Program α} (yes : first.Within allowed)
    (no : second.Within allowed) : (if P then first else second).Within allowed := by
  split
  · exact yes
  · exact no

/-- What passes between the program and a host with a memory. -/
theorem told {host : (c : Call) → StateM σ c.Answer} {p : Program α} (within : p.Within allowed) (state : σ) :
    ∀ exchange ∈ p.told host state, allowed exchange.question := by
  induction p generalizing state with
  | done a => exact List.forall_mem_nil _
  | ask c next ih => exact List.forall_mem_cons.mpr ⟨within.1, ih _ (within.2 _) _⟩

theorem askedOf {host : (c : Call) → StateM σ c.Answer} {p : Program α} (within : p.Within allowed) (state : σ) :
    ∀ c ∈ p.askedOf host state, allowed c := by
  rw [← map_question_told]
  exact List.forall_mem_map.mpr (within.told state)

end Within
end Program

/-! ### Queries -/

namespace Query

/-- Whatever the answers are, the query asks nothing but what is allowed. -/
def Within (allowed : Call → Prop) (query : ExceptT ε Program α) : Prop := query.run.Within allowed

namespace Within

theorem pure (a : α) : Within allowed (pure a : ExceptT ε Program α) := trivial

theorem throw (fault : ε) : Within allowed (throw fault : ExceptT ε Program α) := trivial

theorem report (error : Error) : Within allowed (Query.report error : Query α) := .throw _

/-- Nothing is asked after a failure. -/
theorem reported (error : Error) (f : α → Query β) : Within allowed (Query.report error >>= f) := trivial

theorem lift (outcome : Outcome α) : Within allowed (Query.lift outcome) := trivial

theorem ofProgram {p : Program α} (within : p.Within allowed) : Within allowed (liftM p : ExceptT ε Program α) :=
  Program.Within.bind within fun _ => trivial

theorem bind {query : ExceptT ε Program α} {f : α → ExceptT ε Program β} (first : Within allowed query)
    (rest : ∀ a, Within allowed (f a)) : Within allowed (query >>= f) := by
  refine Program.Within.bind (f := ExceptT.bindCont f) first fun ended => ?_
  cases ended with
  | ok a => exact rest a
  | error fault => trivial

/-- A question and what is made of its answer. -/
theorem ask {p : Program α} {f : α → ExceptT ε Program β} (within : p.Within allowed)
    (rest : ∀ a, Within allowed (f a)) : Within allowed ((liftM p : ExceptT ε Program α) >>= f) :=
  .bind (.ofProgram within) rest

theorem ite {P : Prop} [Decidable P] {first second : ExceptT ε Program α} (yes : Within allowed first)
    (no : Within allowed second) : Within allowed (if P then first else second) := by
  split
  · exact yes
  · exact no

theorem mapM {f : α → ExceptT ε Program β} (each : ∀ a, Within allowed (f a)) (as : List α) :
    Within allowed (as.mapM f) := by
  induction as with
  | nil => exact .pure _
  | cons a as ih =>
    rw [List.mapM_cons]
    exact .bind (each a) fun _ => .bind ih fun _ => .pure _

theorem foldlM {f : β → α → ExceptT ε Program β} (each : ∀ b a, Within allowed (f b a)) (as : List α) (b : β) :
    Within allowed (as.foldlM f b) := by
  induction as generalizing b with
  | nil => exact .pure _
  | cons a as ih =>
    rw [List.foldlM_cons]
    exact .bind (each b a) fun next => ih next

theorem attempt {query : Query α} (within : Within allowed query) : Within allowed query.attempt := by
  refine Program.Within.bind within fun ended => ?_
  match ended with
  | .ok a => trivial
  | .error (.report error) => trivial
  | .error .abort => trivial

theorem answer? {query : Query α} (within : Within allowed query) : Within allowed query.answer? :=
  .bind (.attempt within) fun _ => .pure _

theorem onPath (call path : String) {question : Program (Except IoError α)} (within : question.Within allowed) :
    Within allowed (Query.onPath call path question) := by
  refine .ask within fun answer => ?_
  cases answer with
  | ok a => exact .pure a
  | error cause => exact .report _

end Within
end Query

/-! ### Why a query failed -/

namespace Liveness

/-- Finding out what became of a process asks nothing but what is allowed. -/
structure Within (allowed : Call → Prop) (live : Liveness Program) (pid : Pid) : Prop where
  pidExists : (live.pidExists pid).Within allowed
  isZombie : (live.isZombie pid).Within allowed

variable {live : Liveness Program} {pid : Pid}

/-- Classifying a failure asks no more than finding out what became of the process. -/
theorem Within.classify (within : live.Within allowed pid) (call : String) (cause : IoError) :
    (live.classify pid call cause).Within allowed := by
  unfold Liveness.classify
  split
  · exact .pure _
  refine .bind within.pidExists fun found => ?_
  split
  · exact .pure _
  refine .bind within.isZombie fun ended => ?_
  split
  · exact .pure _
  split
  · exact .pure _
  · exact .pure _

theorem Within.reclassify (within : live.Within allowed pid) (error : Error) :
    (live.reclassify pid error).Within allowed := by
  unfold Liveness.reclassify
  split
  · exact within.classify _ _
  · exact within.classify _ _
  · refine .bind within.pidExists fun found => ?_
    split
    · exact .pure _
    refine .bind within.isZombie fun ended => ?_
    split
    · exact .pure _
    · exact .pure _
  · exact .pure _

end Liveness

namespace Query.Within

variable {live : Liveness Program} {pid : Pid}

theorem fail (within : live.Within allowed pid) (call : String) (cause : IoError) :
    Within allowed (live.fail pid call cause : Query α) :=
  .ask (within.classify call cause) fun _ => .throw _

theorem classifyFor (within : live.Within allowed pid) {query : Query α} (first : Within allowed query) :
    Within allowed (live.classifyFor pid query) := by
  refine Program.Within.bind first fun ended => ?_
  match ended with
  | .ok a => trivial
  | .error .abort => trivial
  | .error (.report error) => exact .bind (within.reclassify error) fun _ => trivial

/-! ### Growing buffers -/

theorem loop {policy : BufferPolicy} {allocator : Growth.Allocator} {elementSize : Nat} {call : String}
    {attempt : Nat → Query (Attempt β)} (each : ∀ length, Within allowed (attempt length)) (remaining length : Nat) :
    Within allowed (Growth.loop policy allocator elementSize call attempt remaining length) := by
  induction remaining generalizing length with
  | zero => exact .throw _
  | succ remaining ih =>
    rw [Growth.loop_succ]
    refine .ite (.throw _) (.bind (.lift _) fun _ => .bind (each length) fun attempted => ?_)
    cases attempted with
    | done result => exact .pure result
    | tooSmall needed => exact ih _

theorem untilDone {policy : BufferPolicy} {allocator : Growth.Allocator} {elementSize initial : Nat} {call : String}
    {attempt : Nat → Query (Attempt β)} (each : ∀ length, Within allowed (attempt length)) :
    Within allowed (Growth.untilDone policy allocator elementSize call initial attempt) := .loop each _ _

theorem untilFits [BufferElement α] {policy : BufferPolicy} {allocator : Growth.Allocator} {elementSize initial : Nat}
    {call : String} {fill : Buffer α → Query (Attempt (Buffer α × Nat))}
    (each : ∀ buffer, Within allowed (fill buffer)) :
    Within allowed (Growth.untilFits policy elementSize call initial fill allocator) := by
  refine .untilDone fun length => .bind (each _) fun attempted => ?_
  cases attempted with
  | done result => exact .pure _
  | tooSmall needed => exact .pure _

end Query.Within
end HostProbe
