import HostProbe.BSD.Mounts
import HostProbe.BSD.Sysctl
import HostProbe.Host
import HostProbe.MacOS

/-! Tables read from a kernel that keeps changing. Between any two questions the kernel may pass to another state,
and what it says about sizes is not relied on; what is read is still the table of one state, and whole. -/
namespace HostProbe

variable {σ α β : Type}

/-- A kernel that may change at each question, and the tables that each of its states holds. -/
structure ShiftingKernel (σ : Type) where
  answer : (c : Call) → σ → c.Answer × σ
  table : σ → Mib → Bytes
  mounts : σ → List Mount
  facet : σ → Pid → ProcessFacet → Bytes

namespace ShiftingKernel

/-- How the kernel answers readers. A table addressed by numbers is refused when there is too little room for it;
mounts and facts about processes are cut to the room without notice. Nothing is assumed about sizes. -/
structure Honest (kernel : ShiftingKernel σ) : Prop where
  refuses : ∀ now mib room, room < (kernel.table now mib).length →
    (kernel.answer (.sysctl (.read mib room)) now).1 = .error (.number ErrorNumber.outOfMemory)
  reads : ∀ now mib room, (kernel.table now mib).length ≤ room →
    ∀ reply, (kernel.answer (.sysctl (.read mib room)) now).1 = .ok reply → reply.bytes = kernel.table now mib
  lists : ∀ now room mounts,
    (kernel.answer (.mount (.list room)) now).1 = .ok mounts → mounts = (kernel.mounts now).take room
  tells : ∀ now pid facet room bytes,
    (kernel.answer (.mach (.process pid facet room)) now).1 = .ok bytes → bytes = (kernel.facet now pid facet).take room

/-- Answers a question and writes down what was asked in which state. -/
def logged (kernel : ShiftingKernel σ) (c : Call) : StateM (σ × List (σ × Call)) c.Answer :=
  fun (now, asked) =>
    let (answer, later) := kernel.answer c now
    (answer, later, asked ++ [(now, c)])

def run (kernel : ShiftingKernel σ) (query : Query α) (state : σ × List (σ × Call)) :
    Outcome α × σ × List (σ × Call) :=
  (query.run.runWith kernel.logged).run state

/-- A query's result and what it asked, each question with the state that answered it. -/
structure Observation (σ α : Type) where
  result : Outcome α
  asked : List (σ × Call)

def observe (kernel : ShiftingKernel σ) (query : Query α) (start : σ) : Observation σ α :=
  match kernel.run query (start, []) with
  | (result, _, asked) => ⟨result, asked⟩

/-- A success is what the state held that answered the last question, which was one of the given ones. -/
def Observation.Whole {ι : Type} (o : Observation σ α) (question : ι → Call) (held : σ → α) : Prop :=
  ∀ a, o.result = .ok a → ∃ now i, o.asked.getLast? = some (now, question i) ∧ a = held now

/-! ### Runs -/

variable {kernel : ShiftingKernel σ} {state last : σ × List (σ × Call)}

theorem run_bind (query : Query α) (f : α → Query β) :
    kernel.run (query >>= f) state = match kernel.run query state with
      | (.ok a, after) => kernel.run (f a) after
      | (.error fault, after) => (.error fault, after) := by
  have split : (query >>= f).run = (query.run >>= ExceptT.bindCont f) := rfl
  rw [run, run, split, Program.runWith_bind, StateT.run_bind]
  cases (query.run.runWith kernel.logged).run state with
  | mk result after => cases result <;> rfl

/-- A query that succeeds passes through a success of its first part. -/
theorem run_bind_ok {query : Query α} {f : α → Query β} {b : β}
    (h : kernel.run (query >>= f) state = (.ok b, last)) :
    ∃ a middle, kernel.run query state = (.ok a, middle) ∧ kernel.run (f a) middle = (.ok b, last) := by
  rw [run_bind] at h
  cases hq : kernel.run query state with
  | mk result middle =>
    rw [hq] at h
    cases result with
    | error fault => cases h
    | ok a => exact ⟨a, middle, rfl, h⟩

/-- A question succeeds with the answer of the state it is asked in. -/
theorem run_ask_ok {c : Call} {a : c.Answer} {now : σ} {asked : List (σ × Call)}
    (h : kernel.run (liftM (Program.call c) : Query c.Answer) (now, asked) = (.ok a, last)) :
    (kernel.answer c now).1 = a ∧ last.2 = asked ++ [(now, c)] := by
  cases h
  exact ⟨rfl, rfl⟩

/-- Growth that succeeds ends with an attempt that does. -/
theorem run_loop_ok {policy : BufferPolicy} {allocator : Growth.Allocator} {elementSize : Nat} {call : String}
    {attempt : Nat → Query (Attempt β)} {remaining length : Nat} {b : β}
    (h : kernel.run (Growth.loop policy allocator elementSize call attempt remaining length) state = (.ok b, last)) :
    ∃ length middle, kernel.run (attempt length) middle = (.ok (.done b), last) := by
  induction remaining generalizing length state with
  | zero => cases h
  | succ remaining ih =>
    rw [Growth.loop_succ] at h
    split at h
    · cases h
    obtain ⟨_, _, -, attempted⟩ := run_bind_ok h
    obtain ⟨answer, after, made, rest⟩ := run_bind_ok attempted
    cases answer with
    | done result =>
      cases rest
      exact ⟨length, _, made⟩
    | tooSmall needed => exact ih rest

/-! ### Attempts -/

variable {policy : BufferPolicy} {now later : σ} {asked asked' : List (σ × Call)}

/-- An attempt at a table is done only with the whole table, which it has just asked for. -/
private theorem attempt_done (honest : kernel.Honest) {mib : Mib} {call : String} {room : Nat} {reply : Reply}
    (h : kernel.run (BSD.Sysctl.attempt mib call room) (now, asked) = (.ok (.done reply), later, asked')) :
    asked' = asked ++ [(now, .sysctl (.read mib room))] ∧ reply.bytes = kernel.table now mib := by
  rw [BSD.Sysctl.attempt] at h
  obtain ⟨answer, middle, asking, rest⟩ := run_bind_ok h
  obtain ⟨heard, grown⟩ := run_ask_ok asking
  cases answer with
  | error cause =>
    dsimp only at rest
    split at rest
    · cases rest
    · cases rest
  | ok found =>
    cases rest
    refine ⟨grown, ?_⟩
    by_cases short : room < (kernel.table now mib).length
    · rw [honest.refuses now mib room short] at heard
      cases heard
    · exact honest.reads now mib room (Nat.not_lt.mp short) reply heard

/-- Growth over attempts at tables ends with a whole table, asked for last. -/
private theorem untilDone_whole (honest : kernel.Honest) (address : Nat → Mib) (room : Nat → Nat) {call : String}
    {initial : Nat} {reply : Reply} (h : kernel.run (Growth.untilDone policy .standard 1 call initial fun length =>
      BSD.Sysctl.attempt (address length) call (room length)) state = (.ok reply, last)) :
    ∃ now length, last.2.getLast? = some (now, .sysctl (.read (address length) (room length))) ∧
      reply.bytes = kernel.table now (address length) := by
  obtain ⟨length, ⟨now, asked⟩, done⟩ := run_loop_ok h
  obtain ⟨grown, whole⟩ := attempt_done honest done
  refine ⟨now, length, ?_, whole⟩
  rw [grown, List.getLast?_concat]

private theorem readBytes_whole (honest : kernel.Honest) {mib : Mib} {call : String} {bytes : Bytes}
    (h : kernel.run (BSD.Sysctl.readBytes policy mib call) state = (.ok bytes, last)) :
    ∃ now room, last.2.getLast? = some (now, .sysctl (.read mib room)) ∧ bytes = kernel.table now mib := by
  rw [BSD.Sysctl.readBytes] at h
  obtain ⟨size, sized, -, rest⟩ := run_bind_ok h
  obtain ⟨reply, read, reading, ending⟩ := run_bind_ok rest
  cases ending
  exact untilDone_whole honest (fun _ => mib) id reading

/-- A table that is read is what the kernel held at the last question. -/
private theorem readTable_whole (honest : kernel.Honest) {layout : RecordLayout α} {mib : Mib} {call : String}
    {rows : σ → Bytes} (counted : ∀ now count, kernel.table now (mib.extend [layout.size, count]) = rows now)
    {records : List α} (h : kernel.run (BSD.Sysctl.readTable policy layout mib call) state = (.ok records, last)) :
    ∃ now count room, last.2.getLast? = some (now, .sysctl (.read (mib.extend [layout.size, count]) room)) ∧
      records = layout.all (rows now) := by
  rw [BSD.Sysctl.readTable] at h
  obtain ⟨size, sized, -, rest⟩ := run_bind_ok h
  obtain ⟨initial, started, -, rest⟩ := run_bind_ok rest
  obtain ⟨reply, read, reading, ending⟩ := run_bind_ok rest
  cases ending
  obtain ⟨now, length, asked, whole⟩ := untilDone_whole honest _ _ reading
  refine ⟨now, _, _, asked, ?_⟩
  rw [whole, counted]

/-- Mounts that are listed are those that the kernel had at the last question. -/
private theorem mounts_whole (honest : kernel.Honest) {dialect : BSD.MountDialect} {found : List Mount}
    (h : kernel.run (BSD.mounts policy dialect) state = (.ok found, last)) :
    ∃ now room, last.2.getLast? = some (now, .mount (.list room)) ∧ found = kernel.mounts now := by
  rw [BSD.mounts] at h
  obtain ⟨count, counted, -, rest⟩ := run_bind_ok h
  cases count with
  | error cause => cases rest
  | ok count =>
    obtain ⟨_, _, -, rest⟩ := run_bind_ok rest
    obtain ⟨_, _, -, rest⟩ := run_bind_ok rest
    obtain ⟨length, ⟨now, asked⟩, done⟩ := run_loop_ok rest
    obtain ⟨answer, middle, asking, ending⟩ := run_bind_ok done
    obtain ⟨heard, grown⟩ := run_ask_ok asking
    cases answer with
    | error cause => cases ending
    | ok written =>
      have cut := honest.lists now _ written heard
      dsimp only at ending
      split at ending
      · cases ending
      · rename_i spare
        cases ending
        refine ⟨now, _, by rw [grown, List.getLast?_concat], ?_⟩
        rw [cut, List.length_take] at spare
        rw [cut, List.take_of_length_le (by omega)]

/-- Records about a process are those that the kernel held at the last question. -/
private theorem facetList_whole (honest : kernel.Honest) {p : MacOS.Probe} {layout : RecordLayout α} {pid : Pid}
    {facet : ProcessFacet} {initial : Nat} {call : String} {records : List α}
    (h : kernel.run (MacOS.facetList p layout pid facet initial call) state = (.ok records, last)) :
    ∃ now room, last.2.getLast? = some (now, .mach (.process pid facet room)) ∧
      records = layout.all (kernel.facet now pid facet) := by
  rw [MacOS.facetList] at h
  obtain ⟨_, _, -, rest⟩ := run_bind_ok h
  obtain ⟨count, ⟨now, asked⟩, done⟩ := run_loop_ok rest
  obtain ⟨answer, middle, asking, ending⟩ := run_bind_ok done
  obtain ⟨heard, grown⟩ := run_ask_ok asking
  cases answer with
  | error cause =>
    obtain ⟨_, _, -, thrown⟩ := run_bind_ok ending
    cases thrown
  | ok written =>
    have cut := honest.tells now pid facet _ written heard
    dsimp only at ending
    split at ending
    · cases ending
    · rename_i spare
      cases ending
      refine ⟨now, _, by rw [grown, List.getLast?_concat], ?_⟩
      have fits : (kernel.facet now pid facet).length ≤ Word.ofInt 32 (Word.toInt 32 (count * layout.size)) := by
        have below := Word.toInt_le_ofInt 32 (count * layout.size)
        rw [cut, List.length_take] at spare
        omega
      rw [cut, List.take_of_length_le fits]

/-! ### Whole tables -/

/-- Where every success is what was held at the last question, the query reads tables whole. -/
private theorem whole_of_run {ι : Type} {query : Query α} {question : ι → Call} {held : σ → α} {start : σ}
    (h : ∀ a last, kernel.run query (start, []) = (.ok a, last) →
      ∃ now i, last.2.getLast? = some (now, question i) ∧ a = held now) :
    (kernel.observe query start).Whole question held := by
  intro a read
  cases ran : kernel.run query (start, []) with
  | mk result last =>
    have same : kernel.observe query start = ⟨result, last.2⟩ := by rw [observe, ran]
    rw [same] at read ⊢
    cases read
    exact h a last ran

/-- A kernel whose tables gain an entry with each question, and whose sizes are stale. -/
def swelling : ShiftingKernel Nat where
  answer c n := (reply n c, n + 1)
  table n _ := List.replicate (n + 2) 7
  mounts n := List.replicate (n + 1) default
  facet n _ _ := List.replicate (8 * (n + 1)) 7
where
  reply (n : Nat) : (c : Call) → c.Answer
    | .sysctl (.size _) => .ok 1
    | .sysctl (.read _ room) =>
      if room < n + 2 then .error (.number ErrorNumber.outOfMemory) else .ok { bytes := List.replicate (n + 2) 7 }
    | .mount .count => .ok 1
    | .mount (.list room) => .ok ((List.replicate (n + 1) default).take room)
    | .mach (.process _ _ room) => .ok ((List.replicate (8 * (n + 1)) 7).take room)
    | c => Host.reply {} c

/-- A kernel whose tables grow with each question is honest. -/
private theorem swelling_honest : swelling.Honest where
  refuses now mib room short := by
    rw [swelling, List.length_replicate] at short
    exact if_pos short
  reads now mib room enough reply heard := by
    have fits : ¬ room < now + 2 := by
      rw [swelling, List.length_replicate] at enough
      omega
    have told : (swelling.answer (.sysctl (.read mib room)) now).1 = .ok { bytes := List.replicate (now + 2) 7 } :=
      if_neg fits
    rw [told] at heard
    cases heard
    rfl
  lists now room mounts heard := by
    cases heard
    rfl
  tells now pid facet room bytes heard := by
    cases heard
    rfl

end ShiftingKernel
end HostProbe
