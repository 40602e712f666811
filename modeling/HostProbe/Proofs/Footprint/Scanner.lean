import HostProbe.Footprint.Scanner
import Mathlib.Data.List.TakeWhile

/-! Lines that a scanner hands out, however the reads of its file are cut into pieces. A step of the scanner is
compared with a step on what is left of the file, of which the scanner holds a part in its buffer. -/
namespace HostProbe.Scanner

/-! ### Lines of a file -/

/-- What stands between newlines; nothing comes after a newline at the end. -/
def linesOf (content : Bytes) : List Bytes :=
  let pieces := content.splitOn 10
  if pieces.getLast? = some [] then pieces.dropLast else pieces

def overlong : IoError := .custom .invalidData "line exceeds scanner buffer"

/-- What the call after `k` others answers: a line or the end, unless a line so far is too long for the buffer. -/
def answerAt (content : Bytes) (k : Nat) : Except IoError (Option Bytes) :=
  if ((linesOf content).take (k + 1)).all fun line => line.length < capacity then .ok (linesOf content)[k]?
  else .error overlong

def lineOf (rest : Bytes) : Bytes := rest.takeWhile (· != 10)

/-- One step on what is left of a file: the answer, and what is left then. -/
def turn (rest : Bytes) : Except IoError (Option Bytes) × Bytes :=
  if capacity ≤ (lineOf rest).length then (.error overlong, rest)
  else if rest.isEmpty then (.ok none, [])
  else (.ok (some (lineOf rest)), rest.drop ((lineOf rest).length + 1))

theorem splitOn_cons {line : Bytes} (single : 10 ∉ line) (rest : Bytes) :
    (line ++ 10 :: rest).splitOn 10 = line :: rest.splitOn 10 :=
  List.splitOnP_append_cons_of_forall_mem (fun b member => by simpa using ne_of_mem_of_not_mem member single)
    10 (by decide) rest

theorem splitOn_of_notMem {line : Bytes} (single : 10 ∉ line) : line.splitOn 10 = [line] :=
  List.splitOnP_eq_singleton fun b member => by simpa using ne_of_mem_of_not_mem member single

theorem linesOf_cons {line : Bytes} (single : 10 ∉ line) (rest : Bytes) :
    linesOf (line ++ 10 :: rest) = line :: linesOf rest := by
  have nonempty : rest.splitOn 10 ≠ [] := List.splitOnP_ne_nil _ rest
  rw [linesOf, linesOf, splitOn_cons single]
  simp only [List.getLast?_cons_of_ne_nil nonempty, List.dropLast_cons_of_ne_nil nonempty]
  split
  · rfl
  · rfl

theorem linesOf_of_notMem {line : Bytes} (single : 10 ∉ line) (nonempty : line ≠ []) : linesOf line = [line] := by
  simp [linesOf, splitOn_of_notMem single, nonempty]

@[simp] theorem linesOf_nil : linesOf [] = [] := rfl

/-- Either a newline ends the first line, or the line is all there is. -/
theorem lineOf_cases (rest : Bytes) :
    (∃ after, rest = lineOf rest ++ 10 :: after) ∨ rest = lineOf rest := by
  have whole : lineOf rest ++ rest.dropWhile (· != 10) = rest := List.takeWhile_append_dropWhile
  cases found : rest.dropWhile (· != 10) with
  | nil => exact .inr (by simpa [found] using whole.symm)
  | cons b after =>
    have newline : b = 10 := by
      have stopped := List.head_dropWhile_not (· != (10 : UInt8)) (l := rest) (by simp [found])
      simpa [found] using stopped
    exact .inl ⟨after, by rw [← newline, ← found, whole]⟩

theorem notMem_lineOf (rest : Bytes) : 10 ∉ lineOf rest := fun member => by
  simpa using List.mem_takeWhile_imp member

theorem linesOf_eq {rest : Bytes} (nonempty : rest ≠ []) :
    linesOf rest = lineOf rest :: linesOf (rest.drop ((lineOf rest).length + 1)) := by
  have single := notMem_lineOf rest
  rcases lineOf_cases rest with ⟨after, split⟩ | last
  · generalize lineOf rest = line at *
    subst split
    rw [linesOf_cons single]
    simp [List.drop_append, List.drop_eq_nil_of_le]
  · generalize lineOf rest = line at *
    subst last
    rw [linesOf_of_notMem single nonempty, List.drop_eq_nil_of_le (Nat.le_succ _), linesOf_nil]

theorem turn_of_short {rest : Bytes} (nonempty : rest ≠ []) (short : (lineOf rest).length < capacity) :
    turn rest = (.ok (some (lineOf rest)), rest.drop ((lineOf rest).length + 1)) := by
  rw [turn, if_neg (Nat.not_le.mpr short), if_neg (by simpa using nonempty)]

theorem turn_of_long {rest : Bytes} (long : capacity ≤ (lineOf rest).length) : turn rest = (.error overlong, rest) :=
  if_pos long

theorem answerAt_zero (rest : Bytes) : answerAt rest 0 = (turn rest).1 := by
  by_cases empty : rest = []
  · subst empty
    rfl
  · rw [answerAt, linesOf_eq empty]
    by_cases short : (lineOf rest).length < capacity
    · simp [turn_of_short empty short, short]
    · simp [turn_of_long (Nat.not_lt.mp short), short]

theorem answerAt_succ (rest : Bytes) (k : Nat) : answerAt rest (k + 1) = answerAt (turn rest).2 k := by
  by_cases empty : rest = []
  · subst empty
    simp [answerAt, turn, lineOf, capacity]
  · by_cases short : (lineOf rest).length < capacity
    · rw [turn_of_short empty short, answerAt, linesOf_eq empty]
      simp [answerAt, short]
    · rw [turn_of_long (Nat.not_lt.mp short), answerAt, answerAt, linesOf_eq empty]
      simp [short]

/-! ### What is left of a file -/

variable {σ : Type} {fault : Option IoError} {content : Bytes} {read : (offset count : Nat) → StateM σ (Except IoError Bytes)}

/-- Reads give what the file holds from an offset on: at least a byte of it before the end, and at most as many as
wanted. How many may depend on everything that happened before. -/
def Delivers (content : Bytes) (read : (offset count : Nat) → StateM σ (Except IoError Bytes)) : Prop :=
  ∀ offset count state, offset ≤ content.length → 0 < count → ∃ size, 0 < size ∧ size ≤ count ∧
    ((read offset count).run state).1 = .ok ((content.drop offset).take size)

/-- Reads deliver what the file holds; at its end they fail where the rest of the file cannot be read. -/
def Feeds (fault : Option IoError) (content : Bytes)
    (read : (offset count : Nat) → StateM σ (Except IoError Bytes)) : Prop :=
  ∀ offset count state, offset ≤ content.length → 0 < count →
    (offset = content.length ∧ ∃ cause, fault = some cause ∧ ((read offset count).run state).1 = .error cause) ∨
      (offset < content.length ∨ fault = none) ∧ ∃ size, 0 < size ∧ size ≤ count ∧
        ((read offset count).run state).1 = .ok ((content.drop offset).take size)

theorem Delivers.feeds (delivers : Delivers content read) : Feeds none content read :=
  fun offset count state within wanted => .inr ⟨.inr rfl, delivers offset count state within wanted⟩

/-- The part of the file that no call has handed out. -/
def left (content : Bytes) (s : Scanner) : Bytes := s.buffer.drop s.pending ++ content.drop s.offset

/-- A buffer that never overflows, and an end that was really met. -/
structure Sound (content : Bytes) (s : Scanner) : Prop where
  handed : s.pending ≤ s.buffer.length
  fits : s.buffer.length ≤ capacity
  within : s.offset ≤ content.length
  room : s.ended → s.buffer.length < capacity
  finished : s.ended → content.length ≤ s.offset

/-- The end of a file that cannot be read to its end is never met. -/
structure Steady (fault : Option IoError) (content : Bytes) (s : Scanner) : Prop extends Sound content s where
  endless : s.ended → fault = none

/-- A scanner that was set to the file and has read nothing. -/
theorem sound_new (content : Bytes) : Sound content {} := ⟨le_rfl, Nat.zero_le _, Nat.zero_le _, nofun, nofun⟩

theorem steady_new (fault : Option IoError) (content : Bytes) : Steady fault content {} := ⟨sound_new content, nofun⟩

theorem Sound.steady {s : Scanner} (sound : s.Sound content) : s.Steady none content := ⟨sound, fun _ => rfl⟩

def reserve (s : Scanner) : Nat := (capacity - s.buffer.length) + if s.ended then 0 else 1

def fed (s : Scanner) (bytes : Bytes) : Scanner :=
  { s with buffer := s.buffer ++ bytes, offset := s.offset + bytes.length, ended := s.ended || bytes.isEmpty }

/-- A read takes nothing from what is left to be handed out. -/
theorem left_fed {s : Scanner} (sound : s.Sound content) (size : Nat) :
    (s.fed ((content.drop s.offset).take size)).left content = s.left content := by
  have rest : content.drop (s.offset + ((content.drop s.offset).take size).length) =
      (content.drop s.offset).drop size := by
    rw [← List.drop_drop, List.length_take]
    rcases Nat.le_total size (content.drop s.offset).length with within | past
    · rw [Nat.min_eq_left within]
    · rw [Nat.min_eq_right past, List.drop_eq_nil_of_le past, List.drop_eq_nil_of_le le_rfl]
  rw [left, left, fed, rest, List.drop_append_of_le_length sound.handed, List.append_assoc, List.take_append_drop]

/-- A read leaves the buffer within its capacity. -/
theorem sound_fed {s : Scanner} (sound : s.Sound content) (unended : s.ended = false) {size : Nat} (positive : 0 < size)
    (small : size ≤ capacity - s.buffer.length) : (s.fed ((content.drop s.offset).take size)).Sound content := by
  have fits := sound.fits
  have taken := List.length_take_le size (content.drop s.offset)
  have empty : (s.fed ((content.drop s.offset).take size)).ended →
      (content.drop s.offset).take size = [] := fun ended => by
    simpa [fed, unended] using ended
  refine ⟨?_, ?_, ?_, fun ended => ?_, fun ended => ?_⟩
  · have handed := sound.handed
    simp only [fed, List.length_append]
    omega
  · simp only [fed, List.length_append]
    omega
  · have within := sound.within
    have rest := List.length_take_le' size (content.drop s.offset)
    rw [List.length_drop] at rest
    simp only [fed]
    omega
  · simp only [fed, empty ended, List.append_nil]
    omega
  · have past : content.drop s.offset = [] := by simpa [positive.ne'] using empty ended
    simpa [fed, empty ended] using past

theorem reserve_fed {s : Scanner} (unended : s.ended = false) {bytes : Bytes}
    (small : bytes.length ≤ capacity - s.buffer.length) : (s.fed bytes).reserve < s.reserve := by
  cases bytes with
  | nil => simp [reserve, fed, unended]
  | cons b bytes =>
    simp only [reserve, fed, unended, List.length_append, List.length_cons, List.isEmpty_cons, Bool.or_false,
      Bool.false_eq_true, if_false] at *
    omega

/-- A read that delivers feeds the scanner; at the end of a file that cannot be read further there is no other read. -/
theorem run_refill (feeds : Feeds fault content read) {s : Scanner} (steady : s.Steady fault content)
    (unended : s.ended = false) (room : s.buffer.length < capacity) (state : σ) :
    (∃ cause after, fault = some cause ∧ s.offset = content.length ∧
      (s.refill read).run state = (.error cause, after)) ∨
    ∃ size after, size ≤ capacity - s.buffer.length ∧ (s.fed ((content.drop s.offset).take size)).Steady fault content ∧
      (s.refill read).run state = (.ok (s.fed ((content.drop s.offset).take size)), after) := by
  have opened : (s.refill read).run state =
      match (read s.offset (capacity - s.buffer.length)).run state with
      | (.error cause, after) => (.error cause, after)
      | (.ok bytes, after) => (.ok (s.fed bytes), after) := by
    simp only [refill, unended, room.ne, Bool.false_or, decide_false, Bool.false_eq_true, if_false, StateT.run_bind]
    obtain ⟨answer, after⟩ := (read s.offset (capacity - s.buffer.length)).run state
    cases answer with
    | error cause => rfl
    | ok bytes => simp only [fed, unended, Bool.false_or]; rfl
  have gives := feeds s.offset (capacity - s.buffer.length) state steady.within (Nat.sub_pos_of_lt room)
  generalize (read s.offset (capacity - s.buffer.length)).run state = reply at opened gives
  obtain ⟨answer, after⟩ := reply
  rcases gives with ⟨last, cause, fails, told⟩ | ⟨further, size, positive, small, told⟩
  · obtain rfl : answer = .error cause := told
    exact .inl ⟨cause, after, fails, last, opened⟩
  · obtain rfl : answer = .ok ((content.drop s.offset).take size) := told
    refine .inr ⟨size, after, small, ⟨sound_fed steady.toSound unended positive small, fun ended => ?_⟩, opened⟩
    refine further.resolve_left fun more => ?_
    have empty : (content.drop s.offset).take size = [] := by simpa [fed, unended] using ended
    have past : content.drop s.offset = [] := by simpa [positive.ne'] using empty
    exact Nat.not_le.mpr more (List.drop_eq_nil_iff.mp past)

private theorem lineOf_append_of_lt {held : Bytes} (found : (lineOf held).length < held.length) (rest : Bytes) :
    lineOf (held ++ rest) = lineOf held := by
  rw [lineOf, List.takeWhile_append]
  exact if_neg found.ne

private theorem lineOf_append_of_eq {held : Bytes} (single : lineOf held = held) (rest : Bytes) :
    lineOf (held ++ rest) = held ++ lineOf rest := by
  rw [lineOf, List.takeWhile_append]
  exact if_pos (congrArg List.length single)

/-- A newline in a buffer ends a line, whatever follows. -/
theorem turn_of_found {held : Bytes} (found : (lineOf held).length < held.length) (fits : held.length ≤ capacity)
    (rest : Bytes) :
    turn (held ++ rest) = (.ok (some (lineOf held)), held.drop ((lineOf held).length + 1) ++ rest) := by
  have nonempty : held ++ rest ≠ [] := by
    cases held with
    | nil => exact absurd found (Nat.lt_irrefl 0)
    | cons b held => exact List.cons_ne_nil _ _
  have same := lineOf_append_of_lt found rest
  rw [turn_of_short nonempty (by rw [same]; omega), same, List.drop_append_of_le_length (Nat.succ_le_of_lt found)]

theorem turn_of_last {held : Bytes} (single : lineOf held = held) (room : held.length < capacity) :
    turn held = (.ok (if held.isEmpty then none else some held), []) := by
  rw [turn, single, if_neg (Nat.not_le.mpr room), List.drop_eq_nil_of_le (Nat.le_succ _)]
  split
  · rfl
  · rfl

theorem turn_of_full {held : Bytes} (single : lineOf held = held) (full : held.length = capacity) (rest : Bytes) :
    turn (held ++ rest) = (.error overlong, held ++ rest) := by
  refine turn_of_long ?_
  rw [lineOf_append_of_eq single, List.length_append, full]
  exact Nat.le_add_right _ _

/-- One step on what is left of a file whose end cannot be read, where that is so: what no newline ends is not handed
out. -/
def turnBefore (fault : Option IoError) (rest : Bytes) : Except IoError (Option Bytes) × Bytes :=
  match fault with
  | some cause => if lineOf rest = rest ∧ rest.length < capacity then (.error cause, rest) else turn rest
  | none => turn rest

/-- An end that cannot be read matters only to a last line that no newline ends. -/
theorem turnBefore_eq_turn {rest : Bytes} (other : fault = none ∨ lineOf rest ≠ rest ∨ capacity ≤ rest.length) :
    turnBefore fault rest = turn rest := by
  cases fault with
  | none => rfl
  | some cause =>
    refine if_neg fun ⟨single, short⟩ => ?_
    rcases other with absent | split | long
    · cases absent
    · exact split single
    · exact Nat.not_le.mpr short long

/-- A rest that no newline ends is too long or meets the fault. -/
theorem turnBefore_of_fault {cause : IoError} {rest : Bytes} (single : lineOf rest = rest) :
    turnBefore (some cause) rest = (.error (if capacity ≤ rest.length then overlong else cause), rest) := by
  by_cases long : capacity ≤ rest.length
  · rw [turnBefore_eq_turn (.inr (.inr long)), turn_of_long (single.symm ▸ long), if_pos long]
  · rw [turnBefore, if_pos ⟨single, Nat.not_le.mp long⟩, if_neg long]

/-- What a call answers is the next turn on what is left, and leaves what that turn leaves. -/
theorem seek_turnsBefore (feeds : Feeds fault content read) {fuel : Nat} {s : Scanner} (steady : s.Steady fault content)
    (fresh : s.pending = 0) (enough : s.reserve < fuel) (state : σ) :
    ∃ next after, (seek read fuel s).run state = (((turnBefore fault (s.left content)).1, next), after) ∧
      next.Steady fault content ∧ next.left content = (turnBefore fault (s.left content)).2 := by
  -- Each read takes one from the reserve, and the fuel covers it.
  induction fuel generalizing s state with
  | zero => exact absurd enough (Nat.not_lt_zero _)
  | succ fuel ih =>
    have whole : s.left content = s.buffer ++ content.drop s.offset := by rw [left, fresh, List.drop_zero]
    by_cases found : (lineOf s.buffer).length < s.buffer.length
    · have parted : lineOf (s.buffer ++ content.drop s.offset) ≠ s.buffer ++ content.drop s.offset := fun same => by
        have shorter := congrArg List.length same
        rw [lineOf_append_of_lt found, List.length_append] at shorter
        omega
      refine ⟨{ s with pending := (lineOf s.buffer).length + 1 }, state, ?_, { steady with handed := found }, ?_⟩
      · rw [whole, turnBefore_eq_turn (.inr (.inl parted)), turn_of_found found steady.fits]
        exact congrArg (StateT.run · state) (if_pos found)
      · rw [whole, turnBefore_eq_turn (.inr (.inl parted)), turn_of_found found steady.fits, left]
    have single : lineOf s.buffer = s.buffer :=
      (List.takeWhile_prefix _).eq_of_length (Nat.le_antisymm (List.takeWhile_prefix _).length_le (Nat.not_lt.mp found))
    by_cases ended : s.ended
    · have last : s.left content = s.buffer := by
        rw [whole, List.drop_eq_nil_of_le (steady.finished ended), List.append_nil]
      have opened : seek read (fuel + 1) s =
          if s.buffer.isEmpty then pure (.ok none, s)
          else pure (.ok (some s.buffer), { s with pending := s.buffer.length }) :=
        (if_neg found).trans (if_pos ended)
      rw [opened, last, turnBefore_eq_turn (.inl (steady.endless ended)), turn_of_last single (steady.room ended)]
      by_cases empty : s.buffer.isEmpty
      · rw [if_pos empty, if_pos empty]
        refine ⟨s, state, rfl, steady, ?_⟩
        rw [last, List.isEmpty_iff.mp empty]
      · rw [if_neg empty, if_neg empty]
        refine ⟨{ s with pending := s.buffer.length }, state, rfl, { steady with handed := le_rfl }, ?_⟩
        simp [left, List.drop_eq_nil_of_le (steady.finished ended)]
    by_cases full : s.buffer.length = capacity
    · have long : capacity ≤ (s.buffer ++ content.drop s.offset).length := by
        rw [List.length_append, full]
        exact Nat.le_add_right _ _
      rw [whole, turnBefore_eq_turn (.inr (.inr long)), turn_of_full single full, ← whole]
      refine ⟨s, state, ?_, steady, rfl⟩
      exact congrArg (StateT.run · state) ((if_neg found).trans ((if_neg ended).trans (if_pos full)))
    have unended : s.ended = false := Bool.eq_false_iff.mpr ended
    have short := Nat.lt_of_le_of_ne steady.fits full
    have unlined : ¬ (s.buffer.takeWhile (· != 10)).length < s.buffer.length := found
    simp only [seek, unlined, unended, full, Bool.false_eq_true, if_false, StateT.run_bind]
    rcases run_refill feeds steady unended short state with
      ⟨cause, after, fails, past, read_on⟩ | ⟨size, middle, small, steady', read_on⟩
    · have last : s.left content = s.buffer := by
        rw [whole, past, List.drop_length, List.append_nil]
      rw [read_on, last, fails, turnBefore, if_pos ⟨single, short⟩]
      exact ⟨s, after, rfl, fails ▸ steady, last⟩
    · have smaller : (s.fed ((content.drop s.offset).take size)).reserve < s.reserve :=
        reserve_fed unended ((List.length_take_le _ _).trans small)
      obtain ⟨next, after, answered, steady'', rest⟩ :=
        ih steady' fresh (Nat.lt_of_lt_of_le smaller (Nat.le_of_lt_succ enough)) middle
      rw [left_fed steady.toSound] at answered rest
      refine ⟨next, after, ?_, steady'', rest⟩
      rw [read_on]
      exact answered

/-- A call hands out the first line of what is left, and leaves the rest. -/
theorem nextLine_turnsBefore (feeds : Feeds fault content read) {s : Scanner} (steady : s.Steady fault content)
    (state : σ) :
    ∃ next after, (s.nextLine read).run state = (((turnBefore fault (s.left content)).1, next), after) ∧
      next.Steady fault content ∧ next.left content = (turnBefore fault (s.left content)).2 := by
  have shorter : (s.buffer.drop s.pending).length ≤ s.buffer.length := by simp
  have consumed : Steady fault content { s with buffer := s.buffer.drop s.pending, pending := 0 } :=
    { handed := Nat.zero_le _
      fits := shorter.trans steady.fits
      within := steady.within
      room := fun ended => Nat.lt_of_le_of_lt shorter (steady.room ended)
      finished := steady.finished
      endless := steady.endless }
  have enough : reserve { s with buffer := s.buffer.drop s.pending, pending := 0 } < capacity + 2 := by
    rw [reserve]
    split <;> omega
  exact seek_turnsBefore feeds consumed rfl enough state

/-- A file that is read to its end hands out the rest behind its last newline, too. -/
theorem nextLine_turns (delivers : Delivers content read) {s : Scanner} (sound : s.Sound content) (state : σ) :
    ∃ next after, (s.nextLine read).run state = (((turn (s.left content)).1, next), after) ∧ next.Sound content ∧
      next.left content = (turn (s.left content)).2 := by
  obtain ⟨next, after, answered, steady, rest⟩ := nextLine_turnsBefore delivers.feeds sound.steady state
  exact ⟨next, after, answered, steady.toSound, rest⟩

/-! ### Calls one after the other -/

def answers {m : Type → Type} [Monad m] (read : (offset count : Nat) → m (Except IoError Bytes)) :
    Nat → Scanner → m (List (Except IoError (Option Bytes)))
  | 0, _ => pure []
  | n + 1, s => do
    let (answer, s) ← s.nextLine read
    return answer :: (← answers read n s)

/-- Calls in a row hand out the lines of what is left, one after the other. -/
private theorem answers_left (delivers : Delivers content read) (n : Nat) {s : Scanner} (sound : s.Sound content)
    (state : σ) : ((answers read n s).run state).1 = (List.range n).map (answerAt (s.left content)) := by
  induction n generalizing s state with
  | zero => rfl
  | succ n ih =>
    obtain ⟨next, after, answered, sound', rest⟩ := nextLine_turns delivers sound state
    have others : ((answers read n next).run after).1 = (List.range n).map (answerAt (turn (s.left content)).2) := by
      rw [ih sound' after, rest]
    have split : ((answers read (n + 1) s).run state).1 =
        (turn (s.left content)).1 :: ((answers read n next).run after).1 := by
      rw [answers, StateT.run_bind, answered]
      rfl
    rw [split, others, List.range_succ_eq_map, List.map_cons, List.map_map, answerAt_zero]
    congr 1
    exact List.map_congr_left fun k _ => (answerAt_succ _ k).symm

/-- On a new file a scanner hands out the file's lines in order and then nothing more; from a line that is too long for
the buffer on it reports that line. Neither how the reads cut the file nor what was read before makes a difference. -/
theorem answers_eq_answerAt (delivers : Delivers content read) (s : Scanner) (n : Nat) (state : σ) :
    ((answers read n s.reset).run state).1 = (List.range n).map (answerAt content) :=
  answers_left delivers n (sound_new content) state

def bytewise (content : Bytes) (offset _count : Nat) : StateM Unit (Except IoError Bytes) :=
  pure (.ok ((content.drop offset).take 1))

theorem delivers_bytewise (content : Bytes) : Delivers content (bytewise content) :=
  fun _ _ _ _ wanted => ⟨1, Nat.one_pos, wanted, rfl⟩

/-- A scanner that has met the end of another file, the last line of which it handed out. -/
def worn : Scanner := { buffer := [120, 121], offset := 2, ended := true, pending := 2 }

/-- Reads of single bytes, through a scanner that was used on another file. -/
theorem answers_bytewise : Delivers [97, 10, 10, 98] (bytewise [97, 10, 10, 98]) ∧
    ((answers (bytewise [97, 10, 10, 98]) 4 worn.reset).run ()).1 =
      [.ok (some [97]), .ok (some []), .ok (some [98]), .ok none] :=
  ⟨delivers_bytewise _, answers_eq_answerAt (delivers_bytewise _) worn 4 ()⟩

end HostProbe.Scanner
