import HostProbe.Growth
import HostProbe.Liveness
import HostProbe.Program

/-! Results of queries against a host that does not change between its answers. Every construct of queries becomes
the same construct on pure outcomes. -/
namespace HostProbe

/-- Results on fixed hosts can be compared. -/
instance decidableEqOutcome {α : Type} [DecidableEq α] : DecidableEq (Outcome α)
  | .ok a, .ok b => decidable_of_iff (a = b) ⟨congrArg Except.ok, Except.ok.inj⟩
  | .error a, .error b => decidable_of_iff (a = b) ⟨congrArg Except.error, Except.error.inj⟩
  | .ok _, .error _ => isFalse nofun
  | .error _, .ok _ => isFalse nofun

theorem checkPid_of_nonnegative {pid : Pid} (nonnegative : 0 ≤ pid) : checkPid pid = .ok () :=
  if_neg (Int.not_lt.mpr nonnegative)

namespace Query

variable {α β : Type} (answer : (c : Call) → c.Answer)

def result (query : Query α) : Outcome α := query.run.eval answer

@[simp] theorem result_pure (a : α) : (pure a : Query α).result answer = .ok a := rfl

@[simp] theorem result_throw (fault : Fault) : (throw fault : Query α).result answer = .error fault := rfl

@[simp] theorem result_report (error : Error) : (report error : Query α).result answer = .error (.report error) := rfl

@[simp] theorem result_lift (outcome : Outcome α) : (lift outcome).result answer = outcome := rfl

@[simp] theorem result_ofProgram (p : Program α) : (liftM p : Query α).result answer = .ok (p.eval answer) := by
  have mapped : (liftM p : Query α).run = p >>= fun a => .done (.ok a) := rfl
  rw [result, mapped, Program.eval_bind]
  rfl

@[simp] theorem result_bind (query : Query α) (f : α → Query β) :
    (query >>= f).result answer = query.result answer >>= fun a => (f a).result answer := by
  have split : (query >>= f).run = query.run >>= ExceptT.bindCont f := rfl
  rw [result, result, split, Program.eval_bind]
  cases query.run.eval answer <;> rfl

theorem result_bind_pure (query : Query α) (g : α → β) :
    (query >>= fun a => pure (g a)).result answer = (query.result answer).map g := by
  rw [result_bind]
  cases query.result answer <;> rfl

/-- A query that succeeds passes through a success of its first part. -/
theorem result_bind_ok {query : Query α} {f : α → Query β} {b : β} (h : (query >>= f).result answer = .ok b) :
    ∃ a, query.result answer = .ok a ∧ (f a).result answer = .ok b := by
  rw [result_bind] at h
  cases first : query.result answer with
  | error fault =>
    rw [first] at h
    cases h
  | ok a =>
    rw [first] at h
    exact ⟨a, rfl, h⟩

theorem result_bind_of_ok {query : Query α} {a : α} (h : query.result answer = .ok a) (f : α → Query β) :
    (query >>= f).result answer = (f a).result answer := by
  rw [result_bind, h]
  rfl

@[simp] theorem result_attempt (query : Query α) : query.attempt.result answer = match query.result answer with
    | .ok a => .ok (.ok a)
    | .error (.report error) => .ok (.error error)
    | .error .abort => .error .abort := by
  rw [attempt, result, result]
  simp only [ExceptT.run, ExceptT.mk, Program.eval_bind]
  cases query.eval answer with
  | ok a => rfl
  | error fault => cases fault <;> rfl

@[simp] theorem result_answer? (query : Query α) : query.answer?.result answer = match query.result answer with
    | .ok a => .ok (some a)
    | .error (.report _) => .ok none
    | .error .abort => .error .abort := by
  rw [answer?, result_bind, result_attempt]
  cases query.result answer with
  | ok a => rfl
  | error fault => cases fault <;> rfl

theorem result_mapM (xs : List α) (f : α → Query β) :
    (xs.mapM f).result answer = xs.mapM fun x => (f x).result answer := by
  induction xs with
  | nil => rfl
  | cons x xs ih => simp only [List.mapM_cons, result_bind, ih, result_pure]; rfl

/-- Telling failures apart leaves answers and aborts as they are. -/
theorem result_classifyFor (live : Liveness Program) (pid : Pid) (query : Query α) :
    result answer (live.classifyFor pid query) = match query.result answer with
      | .error (.report error) => .error (.report ((live.reclassify pid error).eval answer))
      | ended => ended := by
  rw [Liveness.classifyFor, result, result]
  simp only [ExceptT.run, ExceptT.mk, Program.eval_bind]
  cases query.eval answer with
  | ok a => rfl
  | error fault =>
    cases fault with
    | abort => rfl
    | report error =>
      simp only [Program.eval_bind]
      rfl

theorem result_classifyFor_ok {live : Liveness Program} {pid : Pid} {query : Query α} {a : α}
    (h : result answer (live.classifyFor pid query) = .ok a) : query.result answer = .ok a := by
  rw [result_classifyFor] at h
  split at h
  · cases h
  · exact h

/-! ### Aborts -/

/-- The query ends with an answer or an error. -/
def Spared (query : Query α) : Prop := query.result answer ≠ .error .abort

section spared

variable {answer}

theorem Spared.pure (a : α) : (pure a : Query α).Spared answer := nofun

theorem Spared.throw {fault : Fault} (reported : fault ≠ .abort) : (throw fault : Query α).Spared answer :=
  fun aborted => reported (Except.error.inj aborted)

theorem Spared.report (error : Error) : (report error : Query α).Spared answer := .throw nofun

theorem Spared.lift {outcome : Outcome α} (reported : outcome ≠ .error .abort) : (lift outcome).Spared answer :=
  reported

theorem Spared.ofProgram (p : Program α) : (liftM p : Query α).Spared answer := by
  rw [Spared, result_ofProgram]
  exact nofun

theorem Spared.bind {query : Query α} {f : α → Query β} (first : query.Spared answer)
    (rest : ∀ a, query.result answer = .ok a → (f a).Spared answer) : (query >>= f).Spared answer := by
  rw [Spared, result_bind]
  cases ended : query.result answer with
  | error fault =>
    rw [Spared, ended] at first
    exact fun aborted => first (congrArg Except.error (Except.error.inj aborted))
  | ok a => exact rest a ended

theorem Spared.mapM {xs : List α} {f : α → Query β} (each : ∀ x ∈ xs, (f x).Spared answer) :
    (xs.mapM f).Spared answer := by
  induction xs with
  | nil => exact .pure _
  | cons x xs ih =>
    rw [List.mapM_cons]
    have others := ih fun x member => each x (List.mem_cons_of_mem _ member)
    exact .bind (each x List.mem_cons_self) fun _ _ => .bind others fun _ _ => .pure _

theorem Spared.classifyFor {live : Liveness Program} {pid : Pid} {query : Query α} (spared : query.Spared answer) :
    Query.Spared answer (live.classifyFor pid query) := by
  rw [Spared, result_classifyFor]
  split
  · exact nofun
  · exact spared

theorem Spared.fail (live : Liveness Program) (pid : Pid) (call : String) (cause : IoError) :
    Query.Spared answer (live.fail pid call cause : Query α) :=
  .bind (.ofProgram _) fun _ _ => .throw nofun

/-- Growing buffers abort in an attempt, if at all. -/
theorem Spared.loop {policy : BufferPolicy} {allocator : Growth.Allocator} {elementSize : Nat} {call : String}
    {attempt : Nat → Query (Attempt β)} (each : ∀ length, (attempt length).Spared answer) (remaining length : Nat) :
    Query.Spared answer (Growth.loop policy allocator elementSize call attempt remaining length) := by
  induction remaining generalizing length with
  | zero => exact .throw nofun
  | succ remaining ih =>
    have granted : Growth.allocate allocator elementSize length ≠ .error .abort := by
      rw [Growth.allocate]
      split
      · exact nofun
      · exact nofun
    rw [Growth.loop_succ]
    split
    · exact .throw nofun
    · refine .bind (.lift granted) fun _ _ => .bind (each length) fun attempted _ => ?_
      cases attempted with
      | done result => exact .pure result
      | tooSmall needed => exact ih _

end spared

/-! ### Answers that matter -/

/-- Two hosts that give the same answers to questions of some kind get the same result. -/
def RestsOn (kind : Call → Prop) (query : Query α) : Prop :=
  ∀ answer other : (c : Call) → c.Answer, (∀ c, kind c → other c = answer c) →
    query.result other = query.result answer

variable {kind : Call → Prop}

theorem RestsOn.lift (outcome : Outcome α) : (Query.lift outcome).RestsOn kind := fun _ _ _ => rfl

theorem RestsOn.pure (a : α) : (pure a : Query α).RestsOn kind := RestsOn.lift (.ok a)

theorem RestsOn.throw (fault : Fault) : (throw fault : Query α).RestsOn kind := RestsOn.lift (.error fault)

theorem RestsOn.call {c : Call} (allowed : kind c) : (liftM (Program.call c) : Query c.Answer).RestsOn kind := by
  intro answer other agree
  rw [result_ofProgram, result_ofProgram]
  exact congrArg Except.ok (agree c allowed)

theorem RestsOn.bind {query : Query α} {f : α → Query β} (first : query.RestsOn kind)
    (rest : ∀ a, (f a).RestsOn kind) : (query >>= f).RestsOn kind := by
  intro answer other agree
  rw [result_bind, result_bind, first answer other agree]
  cases query.result answer with
  | error fault => rfl
  | ok a => exact rest a answer other agree

theorem RestsOn.foldlM {f : β → α → Query β} (each : ∀ b a, (f b a).RestsOn kind) (as : List α) (b : β) :
    (as.foldlM f b).RestsOn kind := by
  induction as generalizing b with
  | nil => exact .pure b
  | cons a as ih =>
    rw [List.foldlM_cons]
    exact .bind (each b a) ih

/-- Growing buffers ask nothing besides what the attempts ask. -/
theorem RestsOn.loop {policy : BufferPolicy} {allocator : Growth.Allocator} {elementSize : Nat}
    {call : String} {attempt : Nat → Query (Attempt β)} (rests : ∀ length, (attempt length).RestsOn kind)
    (remaining length : Nat) :
    Query.RestsOn kind (Growth.loop policy allocator elementSize call attempt remaining length) := by
  induction remaining generalizing length with
  | zero => exact .throw _
  | succ remaining ih =>
    rw [Growth.loop_succ]
    split
    · exact .throw _
    · refine .bind (.lift _) fun _ => .bind (rests length) fun attempted => ?_
      cases attempted with
      | done result => exact .pure result
      | tooSmall needed => exact ih _

end Query
end HostProbe
