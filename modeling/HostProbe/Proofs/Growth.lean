import HostProbe.Growth
import Mathlib.Algebra.Group.Nat.Defs
import Mathlib.Data.List.Chain
import Mathlib.Data.Nat.Find

/-! Sessions between the growing buffers and the callback that fills them. The callback is any function with a
memory, and what a session guarantees is read off the exchanges it leaves behind. -/
namespace HostProbe.Growth

variable {σ α β γ : Type}

/-- One call of the callback: the buffer it was handed and what it answered. -/
structure Exchange (α : Type) where
  handed : Buffer α
  answer : Outcome (Attempt (Buffer α × Nat))

/-- Fills a buffer. The memory lets an answer depend on everything that was handed before. -/
abbrev Callback (σ α : Type) := Buffer α → σ → Outcome (Attempt (Buffer α × Nat)) × σ

def Callback.logged (fill : Callback σ α) (buffer : Buffer α) :
    ExceptT Fault (StateM (σ × List (Exchange α))) (Attempt (Buffer α × Nat)) :=
  ExceptT.mk fun (memory, calls) =>
    let (answer, memory) := fill buffer memory
    (answer, memory, calls ++ [⟨buffer, answer⟩])

/-- The length after an answer that asked for more room, without overflow. -/
def grown (length : Nat) (needed : Option Nat) : Nat :=
  match needed with
  | some n => min (max (2 * length) (n + n / 8)) Word.top
  | none => min (2 * length) Word.top

def capacity (policy : BufferPolicy) (elementSize : Nat) : Nat := policy.maxSize / max elementSize 1

/-- The length the next buffer would have: the initial one before the first call, the grown one after an answer
that asked for more room. -/
inductive Wanted (initial : Nat) : List (Exchange α) → Nat → Prop
  | first : Wanted initial [] initial
  | next (calls : List (Exchange α)) {last : Exchange α} {needed : Option Nat}
      (short : last.answer = .ok (.tooSmall needed)) :
      Wanted initial (calls ++ [last]) (grown last.handed.length needed)

inductive Ending [BufferElement α] (policy : BufferPolicy) (allocator : Allocator) (elementSize : Nat) (call : String)
    (attempts initial : Nat) : List (Exchange α) → Outcome (List α) → Prop
  | fits (calls : List (Exchange α)) {handed buffer : Buffer α} {written : Nat} :
      Ending policy allocator elementSize call attempts initial (calls ++ [⟨handed, .ok (.done (buffer, written))⟩])
        (.ok (buffer.toList.take (min written handed.length)))
  | fails (calls : List (Exchange α)) {handed : Buffer α} {fault : Fault} :
      Ending policy allocator elementSize call attempts initial (calls ++ [⟨handed, .error fault⟩]) (.error fault)
  | spent {calls : List (Exchange α)} {length : Nat} (wanted : Wanted initial calls length)
      (all : calls.length = attempts) :
      Ending policy allocator elementSize call attempts initial calls (.error (.report (.os call
        (.custom .other s!"buffer still too small after {policy.maxAttempts} attempts"))))
  | oversized {calls : List (Exchange α)} {length : Nat} (wanted : Wanted initial calls length)
      (left : calls.length < attempts) (exceeds : capacity policy elementSize < length) :
      Ending policy allocator elementSize call attempts initial calls (.error (.report (.os call
        (.custom .other s!"buffer would exceed {policy.maxSize} bytes"))))
  | refused {calls : List (Exchange α)} {length : Nat} (wanted : Wanted initial calls length)
      (left : calls.length < attempts) (denied : allocator.grants (length * elementSize) = false) :
      Ending policy allocator elementSize call attempts initial calls
        (.error (.report (.outOfMemory (min (length * elementSize) Word.top))))

/-- What is guaranteed of the calls and the result when so many attempts remain and the first buffer is to have the
initial length. -/
structure Lawful [BufferElement α] (policy : BufferPolicy) (allocator : Allocator) (elementSize : Nat) (call : String)
    (attempts initial : Nat) (calls : List (Exchange α)) (result : Outcome (List α)) : Prop where
  within : calls.length ≤ attempts
  zeroed : ∀ e ∈ calls, e.handed.toList = List.replicate e.handed.length BufferElement.zero
  capped : ∀ e ∈ calls, e.handed.length ≤ capacity policy elementSize
  starts : ∀ e ∈ calls.head?, e.handed.length = initial
  grows : calls.IsChain fun e later =>
    ∃ needed, e.answer = .ok (.tooSmall needed) ∧ later.handed.length = grown e.handed.length needed
  ends : Ending policy allocator elementSize call attempts initial calls result

section buffers

variable [BufferElement α]

theorem toList_zeroed (length : Nat) :
    (Buffer.zeroed length : Buffer α).toList = List.replicate length BufferElement.zero := by
  simp [Buffer.zeroed, Buffer.toList, Buffer.first]

theorem first_eq_take (buffer : Buffer α) (count : Nat) :
    buffer.first count = buffer.toList.take count := by
  simp only [Buffer.toList, Buffer.first, List.take_append, List.take_take, List.take_replicate, List.length_take]
  congr 2
  all_goals omega

end buffers

theorem next_eq_grown (length : Nat) (needed : Option Nat) : next length needed = grown length needed := by
  cases needed <;> simp only [next, grown, Word.saturatingMul, Word.saturatingAdd] <;> omega

/-! ### One attempt -/

theorem run_bind (x : ExceptT Fault (StateM σ) β) (f : β → ExceptT Fault (StateM σ) γ) (state : σ) :
    (x >>= f).run state = match x.run state with
      | (.ok b, after) => (f b).run after
      | (.error fault, after) => (.error fault, after) := by
  cases hx : x.run state with
  | mk result after =>
    have split : (x >>= f).run state = ExceptT.bindCont f (x.run state).1 (x.run state).2 := rfl
    rw [split, hx]
    cases result <;> rfl

variable [BufferElement α]

private def attempting (fill : Callback σ α) (length : Nat) :
    ExceptT Fault (StateM (σ × List (Exchange α))) (Attempt (List α)) := do
  match ← fill.logged (Buffer.zeroed length) with
  | .done (buffer, written) => pure (.done (buffer.first (min written length)))
  | .tooSmall needed => pure (.tooSmall needed)

variable (policy : BufferPolicy) (allocator : Allocator) (elementSize : Nat) (call : String) (fill : Callback σ α)
  (remaining length : Nat)

private theorem attempting_run (memory : σ) (calls : List (Exchange α)) :
    (attempting fill length).run (memory, calls) =
      match fill (Buffer.zeroed length) memory with
      | (answer, after) =>
        (answer.map fun
          | .done (buffer, written) => .done (buffer.first (min written length))
          | .tooSmall needed => .tooSmall needed,
          after, calls ++ [⟨Buffer.zeroed length, answer⟩]) := by
  have logged : (fill.logged (Buffer.zeroed length)).run (memory, calls) =
      match fill (Buffer.zeroed length) memory with
      | (answer, after) => (answer, after, calls ++ [⟨Buffer.zeroed length, answer⟩]) := rfl
  rw [attempting, run_bind, logged]
  cases fill (Buffer.zeroed length) memory with
  | mk answer after =>
    cases answer with
    | error fault => rfl
    | ok attempt => cases attempt <;> rfl

private theorem loop_oversized (state : σ × List (Exchange α)) (exceeds : capacity policy elementSize < length) :
    (loop policy allocator elementSize call (attempting fill) (remaining + 1) length).run state =
      (.error (exhausted call s!"buffer would exceed {policy.maxSize} bytes"), state) := by
  have more : length > policy.maxSize / max elementSize 1 := exceeds
  rw [loop_succ, if_pos more]
  rfl

private theorem loop_refused (state : σ × List (Exchange α)) (fault : Fault)
    (fits : ¬ capacity policy elementSize < length)
    (refusal : allocate allocator elementSize length = .error fault) :
    (loop policy allocator elementSize call (attempting fill) (remaining + 1) length).run state =
      (.error fault, state) := by
  have most : ¬ length > policy.maxSize / max elementSize 1 := fits
  rw [loop_succ, if_neg most, refusal]
  rfl

/-- One round: a call is made with a zeroed buffer, and its answer decides. -/
private theorem loop_calls (memory : σ) (calls : List (Exchange α)) (fits : ¬ capacity policy elementSize < length)
    (granted : allocate allocator elementSize length = .ok ()) :
    (loop policy allocator elementSize call (attempting fill) (remaining + 1) length).run (memory, calls) =
      match fill (Buffer.zeroed length) memory with
      | (.error fault, after) => (.error fault, after, calls ++ [⟨Buffer.zeroed length, .error fault⟩])
      | (.ok (.done (buffer, written)), after) => (.ok (buffer.first (min written length)), after,
          calls ++ [⟨Buffer.zeroed length, .ok (.done (buffer, written))⟩])
      | (.ok (.tooSmall needed), after) =>
        (loop policy allocator elementSize call (attempting fill) remaining (grown length needed)).run
          (after, calls ++ [⟨Buffer.zeroed length, .ok (.tooSmall needed)⟩]) := by
  have most : ¬ length > policy.maxSize / max elementSize 1 := fits
  have lifted : (liftM (Except.ok () : Outcome Unit) : ExceptT Fault (StateM (σ × List (Exchange α))) Unit) =
      pure () := rfl
  rw [loop_succ, if_neg most, granted, lifted]
  simp only [pure_bind, ← next_eq_grown]
  rw [run_bind, attempting_run]
  cases fill (Buffer.zeroed length) memory with
  | mk answer after =>
    cases answer with
    | error fault => rfl
    | ok attempt => cases attempt <;> rfl

theorem allocate_cases : allocate allocator elementSize length = .ok () ∨
    allocator.grants (length * elementSize) = false ∧ allocate allocator elementSize length =
      .error (.report (.outOfMemory (min (length * elementSize) Word.top))) := by
  by_cases h : length * elementSize = 0 ∨ allocator.grants (length * elementSize)
  · exact .inl (if_pos h)
  · have denied : allocator.grants (length * elementSize) = false := by
      simpa using (not_or.mp h).2
    exact .inr ⟨denied, if_neg h⟩

/-! ### Whole sessions -/

section endings

variable {policy allocator elementSize call} {initial attempts : Nat} {calls : List (Exchange α)}
  {result : Outcome (List α)}

/-- A session that ends before its first call. -/
private theorem lawful_nil (ends : Ending policy allocator elementSize call attempts initial [] result) :
    Lawful policy allocator elementSize call attempts initial [] result where
  within := Nat.zero_le _
  zeroed := by simp
  capped := by simp
  starts := by simp
  grows := .nil
  ends := ends

/-- A session that ends with its first call. -/
private theorem lawful_singleton {answer : Outcome (Attempt (Buffer α × Nat))}
    (fits : ¬ capacity policy elementSize < length)
    (ends : Ending policy allocator elementSize call (remaining + 1) length [⟨Buffer.zeroed length, answer⟩] result) :
    Lawful policy allocator elementSize call (remaining + 1) length [⟨Buffer.zeroed length, answer⟩] result where
  within := by simp
  zeroed := List.forall_mem_singleton.mpr (toList_zeroed length)
  capped := List.forall_mem_singleton.mpr (Nat.not_lt.mp fits)
  starts := by simp [Buffer.zeroed]
  grows := .singleton _
  ends := ends

variable {e : Exchange α} {needed : Option Nat} (short : e.answer = .ok (.tooSmall needed))
include short

omit [BufferElement α] in
private theorem wanted_cons {n : Nat} (wanted : Wanted (grown e.handed.length needed) calls n) :
    Wanted initial (e :: calls) n := by
  cases wanted with
  | first => exact .next [] short
  | next calls later => exact .next (e :: calls) later

/-- An ending stays one behind a call that asked for more room. -/
private theorem ending_cons
    (ends : Ending policy allocator elementSize call attempts (grown e.handed.length needed) calls result) :
    Ending policy allocator elementSize call (attempts + 1) initial (e :: calls) result := by
  cases ends with
  | fits calls => exact .fits (e :: calls)
  | fails calls => exact .fails (e :: calls)
  | spent wanted all => exact .spent (wanted_cons short wanted) (by simp [all])
  | oversized wanted left exceeds => exact .oversized (wanted_cons short wanted) (by simpa using left) exceeds
  | refused wanted left denied => exact .refused (wanted_cons short wanted) (by simpa using left) denied

/-- A call that asked for more room, before a session that starts with the grown length. -/
private theorem lawful_cons (clear : e.handed = Buffer.zeroed initial)
    (fits : ¬ capacity policy elementSize < initial)
    (later : Lawful policy allocator elementSize call attempts (grown e.handed.length needed) calls result) :
    Lawful policy allocator elementSize call (attempts + 1) initial (e :: calls) result where
  within := by simpa using later.within
  zeroed := by
    have head : e.handed.toList = List.replicate e.handed.length BufferElement.zero := by
      rw [clear, toList_zeroed]
      rfl
    exact List.forall_mem_cons.mpr ⟨head, later.zeroed⟩
  capped := by
    have head : e.handed.length ≤ capacity policy elementSize := by
      rw [clear]
      exact Nat.not_lt.mp fits
    exact List.forall_mem_cons.mpr ⟨head, later.capped⟩
  starts := by simp [clear, Buffer.zeroed]
  grows := later.grows.cons fun next hnext => ⟨needed, short, later.starts next hnext⟩
  ends := ending_cons short later.ends

end endings

/-- The calls a loop adds to the log, and its result, are lawful for the attempts that remain. -/
private theorem loop_lawful (memory : σ) (calls : List (Exchange α)) :
    ∃ later after result,
      (loop policy allocator elementSize call (attempting fill) remaining length).run (memory, calls) =
        (result, after, calls ++ later) ∧
      Lawful policy allocator elementSize call remaining length later result := by
  -- one round per remaining attempt; a round calls at most once, and only a request for room leads to the next
  induction remaining generalizing length memory calls with
  | zero =>
    refine ⟨[], memory, _, ?_, lawful_nil (.spent .first rfl)⟩
    rw [List.append_nil]
    rfl
  | succ remaining ih =>
    by_cases exceeds : capacity policy elementSize < length
    · refine ⟨[], memory, _, ?_, lawful_nil (.oversized .first (Nat.succ_pos _) exceeds)⟩
      rw [loop_oversized policy allocator elementSize call fill remaining length _ exceeds, List.append_nil]
      rfl
    obtain granted | ⟨denied, refusal⟩ := allocate_cases allocator elementSize length
    · rw [loop_calls policy allocator elementSize call fill remaining length memory calls exceeds granted]
      cases fill (Buffer.zeroed length) memory with
      | mk answer after =>
        match answer with
        | .error fault => exact ⟨_, after, _, rfl, lawful_singleton remaining length exceeds (.fails [])⟩
        | .ok (.done (buffer, written)) =>
          refine ⟨_, after, _, rfl, lawful_singleton remaining length exceeds ?_⟩
          rw [first_eq_take]
          exact .fits []
        | .ok (.tooSmall needed) =>
          obtain ⟨later, after', result, run, lawful⟩ :=
            ih (grown length needed) after (calls ++ [⟨Buffer.zeroed length, .ok (.tooSmall needed)⟩])
          refine ⟨⟨Buffer.zeroed length, .ok (.tooSmall needed)⟩ :: later, after', result, ?_,
            lawful_cons rfl rfl exceeds lawful⟩
          rw [List.append_cons]
          exact run
    · refine ⟨[], memory, _, ?_, lawful_nil (.refused .first (Nat.succ_pos _) denied)⟩
      rw [loop_refused policy allocator elementSize call fill remaining length _ _ exceeds refusal, List.append_nil]

/-- What a session leaves behind: the result and the calls of the callback, in order. -/
structure Session (α : Type) where
  result : Outcome (List α)
  calls : List (Exchange α)

/-- Fills growing buffers with a callback that starts with the given memory. -/
def session (initial : Nat) (memory : σ) : Session α :=
  match (untilFits policy elementSize call initial fill.logged allocator).run (memory, []) with
  | (result, _, calls) => ⟨result, calls⟩

/-- Whatever the callback does, it is called lawfully and the result is the one its last answer calls for. -/
theorem session_lawful (initial : Nat) (memory : σ) :
    Lawful policy allocator elementSize call policy.maxAttempts (max initial 1)
      (session policy allocator elementSize call fill initial memory).calls
      (session policy allocator elementSize call fill initial memory).result := by
  have rounds : untilFits policy elementSize call initial fill.logged allocator =
      loop policy allocator elementSize call (attempting fill) policy.maxAttempts (max initial 1) := rfl
  obtain ⟨calls, after, result, run, lawful⟩ :=
    loop_lawful policy allocator elementSize call fill policy.maxAttempts (max initial 1) memory []
  have made : session policy allocator elementSize call fill initial memory = ⟨result, calls⟩ := by
    rw [session, rounds, run, List.nil_append]
  rw [made]
  exact lawful

/-! ### Sessions about a table

The callback answers for a table that may be another at each call, and asks for more room until the whole table fits. -/

/-- Writes the table of the moment where there is room for it, and else tells of its size what the hint lets through.
The memory is the number of calls so far. -/
def Callback.serving (hint : Nat → Option Nat) (table : Nat → List α) : Callback Nat α := fun buffer k =>
  let size := (table k).length
  (.ok (if size ≤ buffer.length then .done (buffer.fill (table k), size) else .tooSmall (hint size)), k + 1)

/-- After so many doublings a buffer is within the cap and has room for the table of that call. -/
def Fits (initial : Nat) (table : Nat → List α) (doublings : Nat) : Prop :=
  (table doublings).length ≤ initial * 2 ^ doublings ∧ initial * 2 ^ doublings ≤ capacity policy elementSize

instance (initial : Nat) (table : Nat → List α) (doublings : Nat) :
    Decidable (Fits policy elementSize initial table doublings) :=
  inferInstanceAs (Decidable (_ ∧ _))

section tables

variable (hint : Nat → Option Nat) (table : Nat → List α) (k : Nat) (calls : List (Exchange α))

omit [BufferElement α] in
private theorem serving_zeroed (n : Nat) : Callback.serving hint table (Buffer.zeroed n) k =
    (.ok (if (table k).length ≤ n then .done ((Buffer.zeroed n).fill (table k), (table k).length)
      else .tooSmall (hint (table k).length)), k + 1) := rfl

/-- A filled buffer cut to the length of what was written is what was written. -/
private theorem first_fill {elements : List α} {n : Nat} (room : elements.length ≤ n) :
    ((Buffer.zeroed n : Buffer α).fill elements).first (min elements.length n) = elements := by
  have whole : elements.take n = elements := List.take_of_length_le room
  simp [Buffer.zeroed, Buffer.fill, Buffer.first, whole, Nat.min_eq_left room]

variable {policy allocator elementSize length}
variable (granted : ∀ n ≤ capacity policy elementSize, allocator.grants (n * elementSize))
include granted

private theorem allocate_granted (fits : length ≤ capacity policy elementSize) :
    allocate allocator elementSize length = .ok () :=
  if_pos (.inr (granted length fits))

/-- A call with enough room is the last one. -/
private theorem loop_room (fits : length ≤ capacity policy elementSize) (room : (table k).length ≤ length) :
    ∃ last, (loop policy allocator elementSize call (attempting (.serving hint table)) (remaining + 1) length).run
      (k, calls) = (.ok (table k), k + 1, calls ++ [last]) := by
  have ran := loop_calls policy allocator elementSize call (.serving hint table) remaining length k calls
    (Nat.not_lt.mpr fits) (allocate_granted granted fits)
  simp only [serving_zeroed, if_pos room, first_fill room] at ran
  exact ⟨_, ran⟩

/-- A call with too little room leads to the next one, with a larger buffer. -/
private theorem loop_short (fits : length ≤ capacity policy elementSize) (short : length < (table k).length) :
    ∃ last, (loop policy allocator elementSize call (attempting (.serving hint table)) (remaining + 1) length).run
      (k, calls) = (loop policy allocator elementSize call (attempting (.serving hint table)) remaining
        (grown length (hint (table k).length))).run (k + 1, calls ++ [last]) := by
  have ran := loop_calls policy allocator elementSize call (.serving hint table) remaining length k calls
    (Nat.not_lt.mpr fits) (allocate_granted granted fits)
  simp only [serving_zeroed, if_neg (Nat.not_le.mpr short)] at ran
  exact ⟨_, ran⟩

/-! #### Doubling -/

omit [BufferElement α] granted in
private theorem fits_succ (j : Nat) : Fits policy elementSize (2 * length) (fun j => table (k + 1 + j)) j ↔
    Fits policy elementSize length (fun j => table (k + j)) (j + 1) := by
  have doubled : 2 * length * 2 ^ j = length * 2 ^ (j + 1) := by
    rw [pow_succ', ← Nat.mul_assoc, Nat.mul_comm length 2]
  have moved : k + 1 + j = k + (j + 1) := by omega
  rw [Fits, Fits, doubled, moved]

omit [BufferElement α] granted in
private theorem le_capacity_of_fits {table : Nat → List α} {n : Nat} (fits : Fits policy elementSize length table n) :
    length ≤ capacity policy elementSize :=
  (Nat.le_mul_of_pos_right length (Nat.two_pow_pos n)).trans fits.2

omit [BufferElement α] granted in
/-- A buffer within the cap in which the table does not fit is too short for it. -/
private theorem lt_of_not_fits (within : length ≤ capacity policy elementSize)
    (short : ¬ Fits policy elementSize length (fun j => table (k + j)) 0) : length < (table k).length := by
  rw [Fits, pow_zero, Nat.mul_one] at short
  exact Nat.not_le.mp fun room => short ⟨room, within⟩

variable (bounded : 2 * capacity policy elementSize ≤ Word.top)
include bounded

omit [BufferElement α] granted in
private theorem grown_none (within : length ≤ capacity policy elementSize) : grown length none = 2 * length :=
  Nat.min_eq_left ((Nat.mul_le_mul_left 2 within).trans bounded)

/-- With nothing told, the first call whose table fits ends the session. -/
private theorem loop_fits {n : Nat} (first : Fits policy elementSize length (fun j => table (k + j)) n)
    (before : ∀ j < n, ¬ Fits policy elementSize length (fun j => table (k + j)) j) (left : n < remaining) :
    ∃ last, (loop policy allocator elementSize call (attempting (.serving (fun _ => none) table)) remaining length).run
      (k, calls) = (.ok (table (k + n)), k + n + 1, calls ++ last) ∧ last.length = n + 1 := by
  -- one attempt for each doubling; the cap holds for the last length and so for those before
  induction n generalizing remaining length k calls with
  | zero =>
    obtain ⟨remaining, rfl⟩ := Nat.exists_eq_succ_of_ne_zero left.ne'
    obtain ⟨room, within⟩ := first
    rw [pow_zero, Nat.mul_one] at room within
    obtain ⟨last, ran⟩ := loop_room call remaining (fun _ => none) table k calls granted within room
    exact ⟨[last], ran, rfl⟩
  | succ n ih =>
    obtain ⟨remaining, rfl⟩ := Nat.exists_eq_succ_of_ne_zero (Nat.ne_of_gt (Nat.zero_lt_of_lt left))
    have within := le_capacity_of_fits first
    have short := lt_of_not_fits table k within (before 0 (Nat.succ_pos n))
    obtain ⟨asked, ran⟩ := loop_short call remaining (fun _ => none) table k calls granted
      within short
    obtain ⟨last, done, count⟩ := ih remaining (k + 1) (calls ++ [asked]) ((fits_succ table k n).mpr first)
      (fun j less => fun fits => before (j + 1) (Nat.succ_lt_succ less) ((fits_succ table k j).mp fits))
      (Nat.lt_of_succ_lt_succ left)
    refine ⟨asked :: last, ?_, congrArg Nat.succ count⟩
    rw [ran, grown_none bounded within, done]
    simp [Nat.add_comm, Nat.add_left_comm]

/-- With nothing told, a session in which no table fits fails. -/
private theorem loop_fails (never : ∀ j < remaining, ¬ Fits policy elementSize length (fun j => table (k + j)) j) :
    ∃ fault, ((loop policy allocator elementSize call (attempting (.serving (fun _ => none) table)) remaining
      length).run (k, calls)).1 = .error fault := by
  induction remaining generalizing length k calls with
  | zero => exact ⟨_, rfl⟩
  | succ remaining ih =>
    by_cases exceeds : capacity policy elementSize < length
    · rw [loop_oversized policy allocator elementSize call _ remaining length _ exceeds]
      exact ⟨_, rfl⟩
    have within := Nat.not_lt.mp exceeds
    obtain ⟨asked, ran⟩ := loop_short call remaining (fun _ => none) table k calls granted
      within (lt_of_not_fits table k within (never 0 (Nat.succ_pos remaining)))
    rw [ran, grown_none bounded within]
    exact ih (k + 1) _ fun j less fits => never (j + 1) (Nat.succ_lt_succ less) ((fits_succ table k j).mp fits)

/-- With the size told, a second call has room for a table that grew by no more than the slack. -/
private theorem loop_told {initial : Nat} (slack : (table 1).length ≤ (table 0).length + (table 0).length / 8)
    (within : max (2 * initial) ((table 0).length + (table 0).length / 8) ≤ capacity policy elementSize) :
    ∃ n < 2, ∃ last, (loop policy allocator elementSize call (attempting (.serving some table)) (remaining + 2)
      initial).run (0, []) = (.ok (table n), n + 1, last) ∧ last.length = n + 1 := by
  have small : initial ≤ capacity policy elementSize := by omega
  by_cases room : (table 0).length ≤ initial
  · obtain ⟨last, ran⟩ := loop_room call (remaining + 1) some table 0 [] granted small room
    exact ⟨0, Nat.two_pos, [last], ran, rfl⟩
  · obtain ⟨first, short⟩ := loop_short call (remaining + 1) some table 0 [] granted small
      (Nat.not_le.mp room)
    have told : grown initial (some (table 0).length) = max (2 * initial) ((table 0).length + (table 0).length / 8) :=
      Nat.min_eq_left (by omega)
    obtain ⟨last, ran⟩ := loop_room call remaining some table 1 [first] granted within
      (slack.trans (Nat.le_max_right _ _))
    refine ⟨1, Nat.one_lt_two, [first, last], ?_, rfl⟩
    rw [short, told]
    exact ran

end tables

def tableSession (hint : Nat → Option Nat) (table : Nat → List α) (initial : Nat) : Session α :=
  session policy allocator elementSize call (.serving hint table) initial 0

/-- The session took as many calls as were needed to get to the table of this one, and that whole table is its
result. -/
def Session.Gets (s : Session α) (table : Nat → List α) (k : Nat) : Prop :=
  s.result = .ok (table k) ∧ s.calls.length = k + 1

variable {policy allocator elementSize call} in
private theorem tableSession_eq {hint : Nat → Option Nat} {table : Nat → List α} {initial after : Nat}
    (positive : 1 ≤ initial) {result : Outcome (List α)} {calls : List (Exchange α)}
    (ran : (loop policy allocator elementSize call (attempting (.serving hint table)) policy.maxAttempts initial).run
      (0, []) = (result, after, calls)) :
    tableSession policy allocator elementSize call hint table initial = ⟨result, calls⟩ := by
  have rounds : untilFits policy elementSize call initial (Callback.serving hint table).logged allocator =
      loop policy allocator elementSize call (attempting (.serving hint table)) policy.maxAttempts (max initial 1) := rfl
  rw [tableSession, session, rounds, Nat.max_eq_left positive, ran]

/-- Growth does not give up too early, where the cap is within the address space and what it allows is granted. When
tables tell their sizes, one that grows by no more than an eighth between two calls is had with the second at the
latest, unless the cap forbids it. When they do not, the session succeeds exactly when some table fits a doubled
buffer, and then with the first such table. -/
theorem session_complete {initial : Nat} (positive : 1 ≤ initial) (bounded : policy.maxSize ≤ 2 ^ 63 - 1)
    (granted : ∀ n ≤ capacity policy elementSize, allocator.grants (n * elementSize)) (table : Nat → List α) :
    (2 ≤ policy.maxAttempts → (table 1).length ≤ (table 0).length + (table 0).length / 8 →
      max (2 * initial) ((table 0).length + (table 0).length / 8) ≤ capacity policy elementSize →
      ∃ k < 2, (tableSession policy allocator elementSize call some table initial).Gets table k) ∧
    ((∃ found, (tableSession policy allocator elementSize call (fun _ => none) table initial).result = .ok found) ↔
      ∃ k < policy.maxAttempts, Fits policy elementSize initial table k) ∧
    ∀ k < policy.maxAttempts, Fits policy elementSize initial table k →
      (∀ j < k, ¬ Fits policy elementSize initial table j) →
      (tableSession policy allocator elementSize call (fun _ => none) table initial).Gets table k := by
  have room : 2 * capacity policy elementSize ≤ Word.top := by
    have cap : capacity policy elementSize ≤ policy.maxSize := Nat.div_le_self _ _
    simp only [Word.top]
    omega
  have shifted : (fun j => table (0 + j)) = table := by simp
  have gets : ∀ k < policy.maxAttempts, Fits policy elementSize initial table k →
      (∀ j < k, ¬ Fits policy elementSize initial table j) →
      (tableSession policy allocator elementSize call (fun _ => none) table initial).Gets table k := by
    intro k left first before
    rw [← shifted] at first before
    obtain ⟨calls, ran, count⟩ := loop_fits call _ table 0 [] granted room first before left
    rw [tableSession_eq positive ran]
    exact ⟨by rw [Nat.zero_add], count⟩
  refine ⟨fun attempts slack within => ?_, ⟨?_, ?_⟩, gets⟩
  · obtain ⟨remaining, enough⟩ := Nat.exists_eq_add_of_le' attempts
    obtain ⟨k, less, calls, ran, count⟩ :=
      loop_told call remaining table granted room slack within
    rw [← enough] at ran
    rw [tableSession_eq positive ran]
    exact ⟨k, less, rfl, count⟩
  · rintro ⟨found, succeeded⟩
    by_contra none
    have never : ∀ j < policy.maxAttempts, ¬ Fits policy elementSize initial (fun j => table (0 + j)) j := by
      rw [shifted]
      exact fun j less fits => none ⟨j, less, fits⟩
    obtain ⟨fault, failed⟩ := loop_fails call _ table 0 [] granted room never
    rw [tableSession_eq positive rfl] at succeeded
    cases failed.symm.trans succeeded
  · intro some
    classical
    have least : (tableSession policy allocator elementSize call (fun _ => none) table initial).Gets table
        (Nat.find some) :=
      gets _ (Nat.find_spec some).1 (Nat.find_spec some).2 fun j less fits =>
        Nat.find_min some less ⟨less.trans (Nat.find_spec some).1, fits⟩
    exact ⟨_, least.1⟩

def growing (k : Nat) : List Nat := List.replicate (if k = 0 then 8 else 9) 7

/-- The growing table, by hints within two calls, and by doubling within five. -/
theorem session_complete_growing :
    (∀ n ≤ capacity ⟨64, 5⟩ 4, Allocator.standard.grants (n * 4)) ∧
      (growing 1).length ≤ (growing 0).length + (growing 0).length / 8 ∧
      (∃ k < 2, (tableSession ⟨64, 5⟩ .standard 4 "call" some growing 1).Gets growing k) ∧
      Fits ⟨64, 5⟩ 4 1 growing 4 ∧ (∀ j < 4, ¬ Fits ⟨64, 5⟩ 4 1 growing j) ∧
      (tableSession ⟨64, 5⟩ .standard 4 "call" (fun _ => none) growing 1).Gets growing 4 := by
  have granted : ∀ n ≤ capacity ⟨64, 5⟩ 4, Allocator.standard.grants (n * 4) := by decide
  have fits : Fits ⟨64, 5⟩ 4 1 growing 4 := by decide
  have before : ∀ j < 4, ¬ Fits ⟨64, 5⟩ 4 1 growing j := by decide
  obtain ⟨told, -, doubled⟩ := session_complete ⟨64, 5⟩ .standard 4 "call" (Nat.le_refl 1) (by decide) granted growing
  exact ⟨granted, by decide, told (by decide) (by decide) (by decide), fits, before, doubled 4 (by decide) fits before⟩

end HostProbe.Growth
