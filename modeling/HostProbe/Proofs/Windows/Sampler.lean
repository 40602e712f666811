import HostProbe.Host
import HostProbe.Proofs.Endings
import HostProbe.Proofs.Identifiers.Within
import HostProbe.Windows.Sampler

/-! What asking for load averages does to the samples where sampling cannot be started, over any number of attempts,
and what is asked once it was. -/
namespace HostProbe

variable {α β : Type}

/-! ### Results under all answers -/

namespace SampledQuery

/-- What follows a query takes up its result and the samples it leaves. -/
theorem run_bind {query : SampledQuery α} {a : α} {s after : Sampling} (f : α → SampledQuery β)
    (ran : query.run.run s = .done (.ok a, after)) : (query >>= f).run.run s = (f a).run.run after := by
  change (query.run.run s >>= fun out =>
    (ExceptT.bindCont f out.1 : StateT Sampling Program _) out.2) = _
  rw [ran]
  rfl

/-- Whatever the answers are, the query ends so and leaves the samples so. -/
def Ends (query : SampledQuery α) (s : Sampling) (holds : Except Fault α → Sampling → Prop) : Prop :=
  (query.run.run s).Ends fun out => holds out.1 out.2

namespace Ends

variable {s : Sampling} {first : Except Fault α → Sampling → Prop} {holds : Except Fault β → Sampling → Prop}

theorem ofQuery (query : Query α) : (SampledQuery.ofQuery query).Ends s fun _ after => after = s :=
  Program.Ends.after fun _ => rfl

/-- What follows a query may rest on all that is known of its end. -/
theorem bind {query : SampledQuery α} {f : α → SampledQuery β} (before : query.Ends s first)
    (ok : ∀ a after, first (.ok a) after → (f a).Ends after holds)
    (error : ∀ fault after, first (.error fault) after → holds (.error fault) after) :
    (query >>= f).Ends s holds := by
  refine Program.Ends.bind before ?_
  rintro ⟨ended, after⟩ given
  cases ended with
  | ok a => exact ok a after given
  | error fault => exact error fault after given

theorem after {query : SampledQuery α} {a : α} {next : Sampling} {f : α → SampledQuery β}
    (ran : query.run.run s = .done (.ok a, next)) (rest : (f a).Ends next holds) : (query >>= f).Ends s holds := by
  rw [Ends, run_bind f ran]
  exact rest

end Ends
end SampledQuery

def Sampling.taking (s : Sampling) (values : List Float) : Sampling :=
  { s with averages := values.foldl LoadAverage.record s.averages }

theorem Sampling.taking_taking (s : Sampling) (values more : List Float) :
    (s.taking values).taking more = s.taking (values ++ more) := by
  simp only [taking, List.foldl_append]

namespace Windows.Sampler

variable {s : Sampling}

/-! ### One call -/

theorem ends_step (call : String) (c : Program (Except ReturnCode Unit)) :
    (step call c).Ends s fun _ after => after = s := .ofQuery _

theorem ends_fallibleStep (call : String) (c : Program (Except IoError Unit)) :
    (fallibleStep call c).Ends s fun _ after => after = s := .ofQuery _

theorem ends_record (value : Option Float) :
    (record value).Ends s fun ended after => ended = .ok () ∧ after = s.taking value.toList := by
  cases value <;> exact ⟨rfl, rfl⟩

/-- The samples have at most so many further ones, and none where none are taken at once. -/
def Traces (atOnce : Bool) (bound : Nat) (s after : Sampling) : Prop :=
  ∃ taken : List Float, taken.length ≤ bound ∧ (atOnce = false → taken = []) ∧ after = s.taking taken

/-- The steps that come last leave the samples alone. -/
theorem ends_lastSteps :
    (do
      fallibleStep "CreateEventW" (Ask.windows .createEvent)
      step "PdhCollectQueryDataEx" (Ask.windows (.collectEvery LoadAverage.samplingInterval))
      fallibleStep "RegisterWaitForSingleObject" (Ask.windows .registerWait)).Ends s fun _ after => after = s := by
  refine (ends_fallibleStep _ _).bind ?_ fun _ _ same => same
  rintro _ _ rfl
  refine (ends_step _ _).bind ?_ fun _ _ same => same
  rintro _ _ rfl
  exact ends_fallibleStep _ _

/-- Starting leaves at most the sample that was taken at once, however it ends. -/
theorem ends_start (atOnce : Bool) : (start atOnce).Ends s fun _ after => Traces atOnce 1 s after := by
  have none : Traces atOnce 1 s s := ⟨[], Nat.zero_le _, fun _ => rfl, rfl⟩
  refine (ends_step _ _).bind ?_ fun _ _ same => same ▸ none
  rintro _ _ rfl
  refine (ends_step _ _).bind ?_ fun _ _ same => same ▸ none
  rintro _ _ rfl
  cases atOnce with
  | false => exact ends_lastSteps.mono fun _ same => same ▸ none
  | true =>
    refine (ends_step _ _).bind ?_ fun _ _ same => same ▸ none
    rintro _ _ rfl
    refine (SampledQuery.Ends.ofQuery _).bind ?_ fun _ _ same => same ▸ none
    rintro value _ rfl
    have single : value.toList.length ≤ 1 := by cases value <;> simp
    have one (s : Sampling) : Traces true 1 s (s.taking value.toList) := ⟨value.toList, single, nofun, rfl⟩
    refine (ends_record value).bind ?_ fun _ _ given => given.2 ▸ one _
    rintro _ _ ⟨-, rfl⟩
    exact ends_lastSteps.mono fun _ same => same ▸ one _

theorem run_records (values : List (Option Float)) :
    (values.forM record).run.run s = .done (.ok (), s.taking (values.filterMap id)) := by
  induction values generalizing s with
  | nil => rfl
  | cons value values ih =>
    cases value with
    | none => exact ih
    | some value => exact ih

/-- What was collected is taken up and told. -/
theorem run_collected :
    (do
      (← SampledQuery.ofQuery (ExceptT.lift (Ask.windows .collectedValues))).forM record
      return (← get).averages : SampledQuery LoadAverage).run.run s =
      .ask (.windows .collectedValues) fun values =>
        .done (.ok (s.taking (values.filterMap id)).averages, s.taking (values.filterMap id)) := by
  refine congrArg (Program.ask _) (funext fun values => ?_)
  exact SampledQuery.run_bind (fun _ => do return (← get).averages) (run_records values)

/-- Once sampling was started, nothing is asked but what was collected since. -/
theorem run_loadAverage (atOnce : Bool) (started : s.started = true) :
    (loadAverage atOnce).run.run s = .ask (.windows .collectedValues) fun values =>
      .done (.ok (s.taking (values.filterMap id)).averages, s.taking (values.filterMap id)) := by
  have known : (get : SampledQuery Sampling).run.run s = .done (.ok s, s) := rfl
  rw [loadAverage, SampledQuery.run_bind _ known]
  simp only [started, Bool.not_true, Bool.false_eq_true, if_false]
  exact run_collected

/-- A call that cannot start sampling leaves at most one sample, and one that can has started it. -/
theorem ends_loadAverage (atOnce : Bool) (unstarted : s.started = false) :
    (loadAverage atOnce).Ends s fun ended after =>
      match ended with
      | .error _ => Traces atOnce 1 s after
      | .ok _ => after.started = true := by
  have known : (get : SampledQuery Sampling).run.run s = .done (.ok s, s) := rfl
  refine SampledQuery.Ends.after known ?_
  simp only [unstarted, Bool.not_false, if_true]
  refine (ends_start atOnce).bind ?_ fun _ _ traces => traces
  rintro _ next -
  have noted : (modify fun s => { s with started := true } : SampledQuery Unit).run.run next =
      .done (.ok (), { next with started := true }) := rfl
  refine .after noted ?_
  rw [SampledQuery.Ends, run_collected]
  exact fun _ => rfl

/-! ### Runs of calls -/

def calls (atOnce : Bool) : Nat → StateT Sampling Program (List (Except Fault LoadAverage))
  | 0 => pure []
  | n + 1 => do
    let ended ← (loadAverage atOnce).run
    return ended :: (← calls atOnce n)

theorem Traces.trans {atOnce : Bool} {m n : Nat} {first middle last : Sampling} (before : Traces atOnce m first middle)
    (after : Traces atOnce n middle last) : Traces atOnce (m + n) first last := by
  obtain ⟨taken, few, none, rfl⟩ := before
  obtain ⟨more, fewer, nothing, rfl⟩ := after
  refine ⟨taken ++ more, ?_, fun never => ?_, Sampling.taking_taking ..⟩
  · rw [List.length_append]
    exact Nat.add_le_add few fewer
  · rw [none never, nothing never, List.nil_append]

theorem Traces.started {atOnce : Bool} {n : Nat} {before after : Sampling} (traces : Traces atOnce n before after) :
    after.started = before.started := by
  obtain ⟨taken, -, -, rfl⟩ := traces
  rfl

/-- Any number of failing calls leaves at most one sample of each, and none where none are taken at once. -/
theorem failures_trace (atOnce : Bool) (n : Nat) (unstarted : s.started = false) :
    ((calls atOnce n).run s).Ends fun out =>
      (∀ ended ∈ out.1, ended.isOk = false) → Traces atOnce n s out.2 := by
  -- Each call that fails hands on samples that are not started.
  induction n generalizing s with
  | zero => exact fun _ => ⟨[], Nat.zero_le _, fun _ => rfl, rfl⟩
  | succ n ih =>
    refine Program.Ends.bind (ends_loadAverage atOnce unstarted) ?_
    rintro ⟨ended, next⟩ given
    cases ended with
    | ok a =>
      have told (others : List (Except Fault LoadAverage)) : ¬ ∀ ended ∈ .ok a :: others, ended.isOk = false :=
        fun failed => nomatch failed _ List.mem_cons_self
      exact Program.Ends.after fun out failed => absurd failed (told _)
    | error fault =>
      refine Program.Ends.bind (ih (given.started.trans unstarted)) ?_
      rintro ⟨others, last⟩ traces failed
      rw [Nat.add_comm]
      exact given.trans (traces fun ended member => failed ended (List.mem_cons_of_mem _ member))

/-- Where no samples are taken at once, failing calls leave nothing behind, on any host with a memory. -/
theorem failures_leave {σ : Type} (answer : (c : Call) → StateM σ c.Answer) (state : σ) (n : Nat)
    (unstarted : s.started = false)
    (failed : ∀ ended ∈ ((((calls false n).run s).runWith answer).run state).1.1, ended.isOk = false) :
    ((((calls false n).run s).runWith answer).run state).1.2 = s := by
  obtain ⟨taken, -, none, left⟩ := (failures_trace false n unstarted).runWith answer state failed
  rw [left, none rfl]
  rfl

/-- A host on which sampling comes to nothing after its first value was read. -/
def neverWaits (value : Float) : (c : Call) → c.Answer
  | .windows .counterValue => some value
  | .windows .registerWait => .error (.number 8)
  | c => Host.reply {} c

/-- The sample that was taken at once stays although the call fails, and the next call adds another. -/
theorem sample_of_failed_call (value : Float) : ((calls true 2).run {}).eval (neverWaits value) =
    ([.error (.report (.os "RegisterWaitForSingleObject" (.number 8))),
        .error (.report (.os "RegisterWaitForSingleObject" (.number 8)))],
      ({} : Sampling).taking [value, value]) := by
  rfl

/-- Once sampling was started, every call succeeds, and nothing is asked but what was collected. -/
theorem calls_started (atOnce : Bool) (n : Nat) (started : s.started = true) :
    ((calls atOnce n).run s).Within (· = .windows .collectedValues) ∧
      ((calls atOnce n).run s).Ends fun out => ∀ ended ∈ out.1, ended.isOk = true := by
  induction n generalizing s with
  | zero => exact ⟨trivial, nofun⟩
  | succ n ih =>
    have first : (calls atOnce (n + 1)).run s = .ask (.windows .collectedValues) fun values =>
        (calls atOnce n).run (s.taking (values.filterMap id)) >>= fun out =>
          .done (.ok (s.taking (values.filterMap id)).averages :: out.1, out.2) := by
      change ((loadAverage atOnce).run.run s >>= fun out => _) = _
      rw [run_loadAverage atOnce started]
      rfl
    have kept (values : List Float) : (s.taking values).started = true := started
    rw [first]
    constructor
    · exact ⟨rfl, fun values => .bind (ih (kept _)).1 fun _ => .pure _⟩
    · exact fun values => .bind (ih (kept _)).2 fun out others => List.forall_mem_cons.mpr ⟨rfl, others⟩

end Windows.Sampler
end HostProbe
