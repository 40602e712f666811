import HostProbe.Growth
import HostProbe.Liveness
import HostProbe.Program

/-! How programs and queries end when nothing is known of the host: under all answers, and on a host that may remember
what it was asked; and what such a host is asked and answers. -/
namespace HostProbe

variable {σ α β : Type}

/-! ### Under all answers -/

namespace Program

/-- Whatever the answers are, the result satisfies a predicate. -/
def Ends (holds : α → Prop) : Program α → Prop
  | done a => holds a
  | ask _ next => ∀ answer, (next answer).Ends holds

namespace Ends

theorem mono {first holds : α → Prop} {p : Program α} (ends : p.Ends first) (weaker : ∀ a, first a → holds a) :
    p.Ends holds := by
  induction p with
  | done a => exact weaker a ends
  | ask c next ih => exact fun answer => ih answer (ends answer)

theorem bind {p : Program α} {f : α → Program β} {first : α → Prop} {holds : β → Prop} (before : p.Ends first)
    (after : ∀ a, first a → (f a).Ends holds) : (p >>= f).Ends holds := by
  induction p with
  | done a => exact after a before
  | ask c next ih => exact fun answer => ih answer (before answer)

theorem after {p : Program α} {f : α → Program β} {holds : β → Prop} (all : ∀ a, (f a).Ends holds) :
    (p >>= f).Ends holds := by
  induction p with
  | done a => exact all a
  | ask c next ih => exact fun answer => ih answer

/-- A host with a memory gives such a result too. -/
theorem runWith {p : Program α} {holds : α → Prop} (ends : p.Ends holds) (answer : (c : Call) → StateM σ c.Answer)
    (state : σ) : holds ((p.runWith answer).run state).1 := by
  induction p generalizing state with
  | done a => exact ends
  | ask c next ih => exact ih _ (ends _) _

end Ends
def askedOf (host : (c : Call) → StateM σ c.Answer) : Program α → σ → List Call
  | done _, _ => []
  | ask c next, state => c :: (next ((host c).run state).1).askedOf host ((host c).run state).2

theorem askedOf_bind (host : (c : Call) → StateM σ c.Answer) (p : Program α) (f : α → Program β) (state : σ) :
    (p >>= f).askedOf host state = p.askedOf host state ++
      (f ((p.runWith host).run state).1).askedOf host ((p.runWith host).run state).2 := by
  induction p generalizing state with
  | done a => rfl
  | ask c next ih => exact congrArg (c :: ·) (ih _ _)

end Program

namespace Query

/-- Whatever the answers are, the query ends with an answer or with an error for its caller. -/
def Returns (query : Query α) : Prop := query.run.Ends (· ≠ .error .abort)

namespace Returns

theorem pure (a : α) : (pure a : Query α).Returns := nofun

theorem throw {fault : Fault} (reported : fault ≠ .abort) : (throw fault : Query α).Returns :=
  fun aborted => reported (Except.error.inj aborted)

theorem report (error : Error) : (report error : Query α).Returns := .throw nofun

theorem lift {outcome : Outcome α} (reported : outcome ≠ .error .abort) : (lift outcome).Returns := reported

theorem bind {query : Query α} {f : α → Query β} (first : query.Returns) (rest : ∀ a, (f a).Returns) :
    (query >>= f).Returns := by
  refine Program.Ends.bind (f := ExceptT.bindCont f) first fun result reported => ?_
  cases result with
  | ok a => exact rest a
  | error fault => exact fun aborted => reported (congrArg Except.error (Except.error.inj aborted))

theorem ofProgram (p : Program α) : (liftM p : Query α).Returns := Program.Ends.after fun _ => nofun

theorem ite {P : Prop} [Decidable P] {first second : Query α} (yes : first.Returns) (no : second.Returns) :
    (if P then first else second).Returns := by
  split
  · exact yes
  · exact no

theorem fail (live : Liveness Program) (pid : Pid) (call : String) (cause : IoError) :
    Returns (live.fail pid call cause : Query α) :=
  .bind (.ofProgram _) fun _ => .throw nofun

theorem classifyFor {live : Liveness Program} {pid : Pid} {query : Query α} (returns : query.Returns) :
    Query.Returns (live.classifyFor pid query) := by
  refine Program.Ends.bind returns fun result reported => ?_
  match result with
  | .ok a => exact nofun
  | .error .abort => exact absurd rfl reported
  | .error (.report error) => exact Program.Ends.after fun _ => nofun

/-- Growing buffers return if each attempt does. -/
theorem loop {policy : BufferPolicy} {allocator : Growth.Allocator} {elementSize : Nat} {call : String}
    {attempt : Nat → Query (Attempt β)} (each : ∀ length, (attempt length).Returns) (remaining length : Nat) :
    Query.Returns (Growth.loop policy allocator elementSize call attempt remaining length) := by
  induction remaining generalizing length with
  | zero => exact .throw nofun
  | succ remaining ih =>
    have granted : Growth.allocate allocator elementSize length ≠ .error .abort := by
      rw [Growth.allocate]
      split
      · exact nofun
      · exact nofun
    rw [Growth.loop_succ]
    refine .ite (.throw nofun) (.bind (.lift granted) fun _ => .bind (each length) fun attempted => ?_)
    cases attempted with
    | done result => exact .pure result
    | tooSmall needed => exact ih _

end Returns

/-- Whatever the answers are, the query has one too. -/
def Answers (query : Query α) : Prop := query.run.Ends fun result => ∃ a, result = .ok a

namespace Answers

theorem pure (a : α) : (pure a : Query α).Answers := ⟨a, rfl⟩

theorem ofProgram (p : Program α) : (liftM p : Query α).Answers := Program.Ends.after fun a => ⟨a, rfl⟩

theorem bind {query : Query α} {f : α → Query β} (first : query.Answers) (rest : ∀ a, (f a).Answers) :
    (query >>= f).Answers := by
  refine Program.Ends.bind (f := ExceptT.bindCont f) first ?_
  rintro _ ⟨a, rfl⟩
  exact rest a

theorem mapM {f : α → Query β} (each : ∀ a, (f a).Answers) (as : List α) : (as.mapM f).Answers := by
  induction as with
  | nil => exact .pure _
  | cons a as ih =>
    rw [List.mapM_cons]
    exact .bind (each a) fun _ => .bind ih fun _ => .pure _

/-- A failure that is hidden is an answer. -/
theorem answer? {query : Query α} (returns : query.Returns) : query.answer?.Answers := by
  have attempted : query.attempt.Answers := by
    refine Program.Ends.bind returns fun result reported => ?_
    match result with
    | .ok a => exact ⟨.ok a, rfl⟩
    | .error (.report error) => exact ⟨.error error, rfl⟩
    | .error .abort => exact absurd rfl reported
  exact .bind attempted fun _ => .pure _

theorem returns {query : Query α} (answers : query.Answers) : query.Returns := by
  refine answers.mono ?_
  rintro _ ⟨a, rfl⟩
  exact nofun

end Answers

/-! ### On a host with a memory -/

variable {host : (c : Call) → StateM σ c.Answer} {state : σ}

def ran (host : (c : Call) → StateM σ c.Answer) (query : Query α) (state : σ) : Outcome α × σ :=
  (query.run.runWith host).run state

theorem ran_bind (query : Query α) (f : α → Query β) :
    (query >>= f).ran host state = match query.ran host state with
      | (.ok a, after) => (f a).ran host after
      | (.error fault, after) => (.error fault, after) := by
  have split : (query >>= f).run = (query.run >>= ExceptT.bindCont f) := rfl
  rw [ran, ran, split, Program.runWith_bind, StateT.run_bind]
  cases (query.run.runWith host).run state with
  | mk result after => cases result <;> rfl

/-- A query asks what its first part asks, and then what follows from the first part's answer. -/
theorem askedOf_bind (query : Query α) (f : α → Query β) : (query >>= f).run.askedOf host state =
    query.run.askedOf host state ++ match query.ran host state with
      | (.ok a, after) => (f a).run.askedOf host after
      | (.error _, _) => [] := by
  have split : (query >>= f).run = query.run >>= ExceptT.bindCont f := rfl
  rw [split, Program.askedOf_bind]
  refine congrArg (query.run.askedOf host state ++ ·) ?_
  change _ = match (query.run.runWith host).run state with
    | (.ok a, after) => (f a).run.askedOf host after
    | (.error _, _) => []
  cases (query.run.runWith host).run state with
  | mk result after => cases result <;> rfl

/-- The query gives up on the host. -/
def Aborts (host : (c : Call) → StateM σ c.Answer) (query : Query α) (state : σ) : Prop :=
  (query.ran host state).1 = .error .abort

theorem Answers.ran {query : Query α} (answers : query.Answers) (host : (c : Call) → StateM σ c.Answer) (state : σ) :
    ∃ a after, query.ran host state = (.ok a, after) := by
  obtain ⟨a, answered⟩ := Program.Ends.runWith answers host state
  exact ⟨a, _, Prod.ext answered rfl⟩

theorem Returns.not_aborts {query : Query α} (returns : query.Returns) : ¬query.Aborts host state :=
  Program.Ends.runWith returns host state

theorem aborts_lift_iff {outcome : Outcome α} : (lift outcome).Aborts host state ↔ outcome = .error .abort := .rfl

/-- An abort is the first part's, or that of what follows its answer. -/
theorem aborts_bind_iff {query : Query α} {f : α → Query β} : (query >>= f).Aborts host state ↔
    query.Aborts host state ∨ ∃ a after, query.ran host state = (.ok a, after) ∧ (f a).Aborts host after := by
  rw [Aborts, ran_bind, Aborts]
  cases query.ran host state with
  | mk result after =>
    cases result with
    | ok a => exact ⟨fun later => .inr ⟨a, after, rfl, later⟩, fun | .inr ⟨_, _, rfl, later⟩ => later⟩
    | error fault => exact ⟨fun now => .inl (congrArg Except.error (Except.error.inj now)), fun
        | .inl now => congrArg Except.error (Except.error.inj now)⟩

/-- Behind a question, the query goes on with its answer. -/
theorem aborts_call_iff {c : Call} {f : c.Answer → Query β} :
    ((liftM (Program.call c) : Query c.Answer) >>= f).Aborts host state ↔
      (f ((host c).run state).1).Aborts host ((host c).run state).2 := .rfl

/-- Reclassifying errors neither adds an abort nor hides one. -/
theorem aborts_classifyFor_iff {live : Liveness Program} {pid : Pid} {query : Query α} :
    Query.Aborts host (live.classifyFor pid query) state ↔ query.Aborts host state := by
  rw [Aborts, Aborts, ran, ran, Liveness.classifyFor, ExceptT.run_mk, Program.runWith_bind, StateT.run_bind]
  cases (query.run.runWith host).run state with
  | mk result after =>
    match result with
    | .ok a => exact .rfl
    | .error .abort => exact .rfl
    | .error (.report error) =>
      have reported : (do return .error (.report (← live.reclassify pid error)) : Program (Outcome α)).Ends
          (· ≠ .error .abort) := Program.Ends.after fun _ => nofun
      exact ⟨fun aborted => absurd aborted (reported.runWith host after), nofun⟩

end Query

/-! ### Exchanges -/

variable {ε : Type} {host : (c : Call) → StateM σ c.Answer} {state : σ}

structure Exchange where
  question : Call
  answer : question.Answer

namespace Program

/-- Result on a host with a memory, and what the host remembers then. -/
def ran (host : (c : Call) → StateM σ c.Answer) (p : Program α) (state : σ) : α × σ := (p.runWith host).run state

/-- Questions that a host with a memory is asked, each with its answer, in order. -/
def told (host : (c : Call) → StateM σ c.Answer) : Program α → σ → List Exchange
  | done _, _ => []
  | ask c next, state =>
    ⟨c, ((host c).run state).1⟩ :: (next ((host c).run state).1).told host ((host c).run state).2

theorem map_question_told (p : Program α) (state : σ) :
    (p.told host state).map Exchange.question = p.askedOf host state := by
  induction p generalizing state with
  | done a => rfl
  | ask c next ih => exact congrArg (c :: ·) (ih _ _)

theorem told_bind (p : Program α) (f : α → Program β) (state : σ) :
    (p >>= f).told host state = p.told host state ++ (f (p.ran host state).1).told host (p.ran host state).2 := by
  induction p generalizing state with
  | done a => rfl
  | ask c next ih => exact congrArg (_ :: ·) (ih _ _)

/-- A failure ends what is done in steps. -/
theorem ran_except_bind (first : ExceptT ε Program α) (f : α → ExceptT ε Program β) :
    (first >>= f).run.ran host state = match first.run.ran host state with
      | (.ok a, after) => (f a).run.ran host after
      | (.error e, after) => (.error e, after) := by
  have split : (first >>= f).run = first.run >>= ExceptT.bindCont f := rfl
  rw [ran, ran, split, runWith_bind, StateT.run_bind]
  cases (first.run.runWith host).run state with
  | mk result after => cases result <;> rfl

theorem ran_except_bind_of_ok {first : ExceptT ε Program α} {a : α} {after : σ}
    (ended : first.run.ran host state = (.ok a, after)) (f : α → ExceptT ε Program β) :
    (first >>= f).run.ran host state = (f a).run.ran host after := by
  rw [ran_except_bind, ended]

theorem ran_except_bind_of_error {first : ExceptT ε Program α} {e : ε}
    (failed : (first.run.ran host state).1 = .error e) (f : α → ExceptT ε Program β) :
    ((first >>= f).run.ran host state).1 = .error e := by
  rw [ran_except_bind]
  cases ended : first.run.ran host state with
  | mk result after =>
    rw [ended] at failed
    subst failed
    rfl

theorem told_except_bind (first : ExceptT ε Program α) (f : α → ExceptT ε Program β) :
    (first >>= f).run.told host state = first.run.told host state ++ match first.run.ran host state with
      | (.ok a, after) => (f a).run.told host after
      | (.error _, _) => [] := by
  have split : (first >>= f).run = first.run >>= ExceptT.bindCont f := rfl
  rw [split, told_bind]
  cases first.run.ran host state with
  | mk result after => cases result <;> rfl

/-- What passes in the second of two steps follows a first that succeeds. -/
theorem mem_told_except_bind_iff {first : ExceptT ε Program α} {f : α → ExceptT ε Program β} {exchange : Exchange} :
    exchange ∈ (first >>= f).run.told host state ↔ exchange ∈ first.run.told host state ∨
      ∃ a after, first.run.ran host state = (.ok a, after) ∧ exchange ∈ (f a).run.told host after := by
  rw [told_except_bind, List.mem_append]
  cases first.run.ran host state with
  | mk result after =>
    cases result with
    | ok a => exact or_congr_right ⟨fun later => ⟨a, after, rfl, later⟩, fun | ⟨_, _, rfl, later⟩ => later⟩
    | error e => exact or_congr_right ⟨nofun, nofun⟩

end Program

end HostProbe
