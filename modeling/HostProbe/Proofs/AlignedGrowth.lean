import HostProbe.Proofs.Growth
import HostProbe.Windows.Native

/-! Growing buffers of whole words that a callback fills with bytes. Counting in words loses and adds nothing: the bytes
of the answer are those that were written, however many of them the last word has room for. -/
namespace HostProbe

/-! ### Words and bytes -/

namespace MemoryWord

open Growth (wordsFor)

theorem le_wordsFor (bytes : Nat) : bytes ≤ 8 * wordsFor bytes := by
  rw [wordsFor]
  omega

theorem toBytes_cons (word : MemoryWord) (words : List MemoryWord) :
    toBytes (word :: words) = word.toList ++ toBytes words := List.flatMap_cons

theorem toBytes_append (words others : List MemoryWord) : toBytes (words ++ others) = toBytes words ++ toBytes others :=
  List.flatMap_append

theorem length_toBytes (words : List MemoryWord) : (toBytes words).length = 8 * words.length := by
  induction words with
  | nil => rfl
  | cons word words ih =>
    rw [toBytes_cons, List.length_append, Vector.length_toList, ih, List.length_cons]
    omega

theorem toBytes_zero (count : Nat) :
    toBytes (List.replicate count BufferElement.zero) = List.replicate (8 * count) 0 := by
  induction count with
  | zero => rfl
  | succ count ih =>
    have zero : (BufferElement.zero : MemoryWord).toList = List.replicate 8 0 := rfl
    rw [List.replicate_succ, toBytes_cons, ih, zero, List.replicate_append_replicate, Nat.mul_succ, Nat.add_comm]

theorem toBytes_take (words : List MemoryWord) (count : Nat) :
    toBytes (words.take count) = (toBytes words).take (8 * count) := by
  have whole : words = words.take count ++ words.drop count := (List.take_append_drop count words).symm
  rcases Nat.le_total count words.length with short | long
  · have length : (toBytes (words.take count)).length = 8 * count := by
      rw [length_toBytes, List.length_take_of_le short]
    conv_rhs => rw [whole, toBytes_append]
    exact (List.take_left' length).symm
  · rw [List.take_of_length_le long, List.take_of_length_le]
    rw [length_toBytes]
    exact Nat.mul_le_mul_left 8 long

private theorem toList_first (bytes : List UInt8) :
    (Vector.ofFn fun i : Fin 8 => bytes.getD i 0).toList = bytes.take 8 ++ List.replicate (8 - bytes.length) 0 := by
  rw [Vector.toList_ofFn]
  refine List.ext_getElem (by simp; omega) fun i bound _ => ?_
  rw [List.getElem_ofFn, List.getD_eq_getElem?_getD, List.getElem_append]
  split
  case isTrue within =>
    rw [List.length_take] at within
    have inside : i < bytes.length := by omega
    rw [List.getElem_take, List.getElem?_eq_getElem inside, Option.getD_some]
  case isFalse behind =>
    rw [List.length_ofFn] at bound
    rw [List.length_take] at behind
    have outside : bytes.length ≤ i := by omega
    rw [List.getElem_replicate, List.getElem?_eq_none outside, Option.getD_none]

/-- The bytes of the words are the given ones, with zeros behind them up to the end of the last word. -/
theorem toBytes_ofBytes (bytes : List UInt8) :
    toBytes (ofBytes bytes) = bytes ++ List.replicate (8 * wordsFor bytes.length - bytes.length) 0 := by
  fun_induction ofBytes bytes with
  | case1 => rfl
  | case2 b rest ih =>
    have behind : rest.drop 7 = (b :: rest).drop 8 := rfl
    rw [toBytes_cons, toList_first, ih, behind, List.length_drop]
    rcases Nat.lt_or_ge (b :: rest).length 8 with short | long
    · have one : wordsFor (b :: rest).length = 1 := by
        rw [wordsFor, List.length_cons] at *
        omega
      rw [List.take_of_length_le (Nat.le_of_lt short), List.drop_eq_nil_of_le (Nat.le_of_lt short),
        Nat.sub_eq_zero_of_le (Nat.le_of_lt short), one]
      exact List.append_nil _
    · have later : wordsFor (b :: rest).length = wordsFor ((b :: rest).length - 8) + 1 := by
        rw [wordsFor, wordsFor]
        omega
      have zeros : 8 * wordsFor (b :: rest).length - (b :: rest).length =
          8 * wordsFor ((b :: rest).length - 8) - ((b :: rest).length - 8) := by omega
      rw [Nat.sub_eq_zero_of_le long, List.replicate_zero, List.append_nil, ← List.append_assoc,
        List.take_append_drop, zeros]

theorem length_ofBytes (bytes : List UInt8) : (ofBytes bytes).length = wordsFor bytes.length := by
  have bytewise := congrArg List.length (toBytes_ofBytes bytes)
  rw [length_toBytes, List.length_append, List.length_replicate] at bytewise
  have room := le_wordsFor bytes.length
  omega

end MemoryWord

namespace Buffer

open Growth (wordsFor)

theorem fill_written {α : Type} (b : Buffer α) (elements : List α) :
    b.fill (b.fill elements).written = b.fill elements := by
  rw [fill, fill, List.take_take, Nat.min_self]

variable {b : Buffer UInt8} {count : Nat}

/-- Words hold the bytes of a buffer that is a whole number of them long. -/
theorem toBytes_toList_asWords (whole : b.length = count * 8) (inside : b.written.length ≤ b.length) :
    MemoryWord.toBytes b.asWords.toList = b.toList := by
  have words : (MemoryWord.ofBytes b.written).length ≤ count := by
    rw [MemoryWord.length_ofBytes, wordsFor]
    omega
  have room := MemoryWord.le_wordsFor b.written.length
  rw [MemoryWord.length_ofBytes] at words
  have length : b.asWords.length = count := by
    rw [asWords, whole, Nat.mul_div_cancel _ (by decide)]
  rw [toList, first, length, asWords, Nat.min_self, List.take_of_length_le (by rwa [MemoryWord.length_ofBytes]),
    MemoryWord.toBytes_append, MemoryWord.toBytes_ofBytes, MemoryWord.toBytes_zero, MemoryWord.length_ofBytes,
    List.append_assoc, List.replicate_append_replicate, toList, first, Nat.min_self, List.take_of_length_le inside]
  congr 2
  omega

/-- The words that so many bytes take up hold those bytes first. -/
theorem take_toBytes_first_asWords (whole : b.length = count * 8) (inside : b.written.length ≤ b.length)
    {size : Nat} (within : size ≤ b.length) :
    (MemoryWord.toBytes (b.asWords.first (min (wordsFor size) count))).take size = b.first size := by
  have room := MemoryWord.le_wordsFor size
  rw [Growth.first_eq_take, MemoryWord.toBytes_take, toBytes_toList_asWords whole inside, List.take_take,
    Nat.min_eq_left (by omega), Growth.first_eq_take]

end Buffer

def Attempt.map {β γ : Type} (f : β → γ) : Attempt β → Attempt γ
  | .done result => .done (f result)
  | .tooSmall needed => .tooSmall needed

namespace Growth

/-! ### Loops -/

section loops

variable {m : Type → Type} [Monad m] {β : Type} (policy : BufferPolicy) (allocator : Allocator) (call : String)

/-- Lets bytes be written into a zeroed buffer, and cuts it to their number. -/
def fillBytes (fill : Buffer UInt8 → ExceptT Fault m (Attempt (Buffer UInt8 × Nat))) (size : Nat) :
    ExceptT Fault m (Attempt (List UInt8)) := do
  match ← fill (Buffer.zeroed size) with
  | .done (filled, count) => return .done (((Buffer.zeroed size).fill filled.written).first (min count size))
  | .tooSmall needed => return .tooSmall needed

variable [LawfulMonad m]

theorem run_loop_succ (elementSize : Nat) (attempt : Nat → ExceptT Fault m (Attempt β)) (remaining length : Nat) :
    (loop policy allocator elementSize call attempt (remaining + 1) length).run =
      if length > policy.maxSize / max elementSize 1 then
        pure (.error (exhausted call s!"buffer would exceed {policy.maxSize} bytes"))
      else match allocate allocator elementSize length with
        | .error fault => pure (.error fault)
        | .ok () => (attempt length).run >>= fun
          | .error fault => pure (.error fault)
          | .ok (.done result) => pure (.ok result)
          | .ok (.tooSmall needed) =>
            (loop policy allocator elementSize call attempt remaining (next length needed)).run := by
  rw [loop_succ]
  split
  case isTrue exceeds => rfl
  case isFalse fits =>
    have lifted (outcome : Outcome Unit) : (liftM outcome : ExceptT Fault m Unit).run = pure outcome := rfl
    rw [ExceptT.run_bind, lifted, pure_bind]
    cases allocate allocator elementSize length with
    | error fault => rfl
    | ok _ =>
      dsimp only
      rw [ExceptT.run_bind]
      refine bind_congr fun answer => ?_
      match answer with
      | .error fault => rfl
      | .ok (.done result) => rfl
      | .ok (.tooSmall needed) => rfl

variable (fill : Buffer UInt8 → ExceptT Fault m (Attempt (Buffer UInt8 × Nat)))

/-- What is filled with bytes is a buffer of words, cut to those that were written. -/
theorem run_fillWords (words : Buffer MemoryWord) (before : Nat) : (fillWords fill words).run.run before =
    (fill words.asBytes).run >>= fun
      | .error fault => pure (.error fault, before)
      | .ok (.done (filled, count)) => pure (.ok (.done ((words.asBytes.fill filled.written).asWords,
          wordsFor (min count words.asBytes.length))), min count words.asBytes.length)
      | .ok (.tooSmall needed) => pure (.ok (.tooSmall (needed.map wordsFor)), before) := by
  have kept (count : Nat) : (set count : ExceptT Fault (StateT Nat m) PUnit).run.run before = pure (.ok (), count) := by
    have lifted : (set count : ExceptT Fault (StateT Nat m) PUnit).run =
      Except.ok <$> (set count : StateT Nat m PUnit) := rfl
    rw [lifted, StateT.run_map, StateT.run_set, map_pure]
  rw [fillWords]
  simp only [ExceptT.run_bind, StateT.run_bind, ExceptT.run_mk, StateT.run_lift, bind_assoc, pure_bind]
  refine bind_congr fun answer => ?_
  match answer with
  | .error fault => rfl
  | .ok (.done (filled, count)) =>
    simp only [ExceptT.run_bind, StateT.run_bind, kept, pure_bind]
    rfl
  | .ok (.tooSmall needed) => rfl

private def fitting {α : Type} [BufferElement α] (fill : Buffer α → ExceptT Fault m (Attempt (Buffer α × Nat)))
    (length : Nat) : ExceptT Fault m (Attempt (List α)) := do
  match ← fill (Buffer.zeroed length) with
  | .done (buffer, written) => pure (.done (buffer.first (min written length)))
  | .tooSmall needed => pure (.tooSmall needed)

private def counting (attempt : Nat → ExceptT Fault m (Attempt β)) (length : Nat) : ExceptT Fault m (Attempt β) := do
  match ← attempt (length * 8) with
  | .done result => pure (.done result)
  | .tooSmall needed => pure (.tooSmall (needed.map wordsFor))

/-- A buffer of so many words with what the call that got it wrote into it. -/
private def after (length : Nat) (filled : Buffer UInt8) : Buffer UInt8 :=
  (Buffer.zeroed (length * 8)).fill filled.written

private theorem run_fitting (length before : Nat) : (fitting (fillWords fill) length).run.run before =
    (fill (Buffer.zeroed (length * 8))).run >>= fun
      | .error fault => pure (.error fault, before)
      | .ok (.done (filled, count)) => pure (.ok (.done ((after length filled).asWords.first
          (min (wordsFor (min count (length * 8))) length))), min count (length * 8))
      | .ok (.tooSmall needed) => pure (.ok (.tooSmall (needed.map wordsFor)), before) := by
  rw [fitting, ExceptT.run_bind, StateT.run_bind, run_fillWords, bind_assoc]
  refine bind_congr fun answer => ?_
  match answer with
  | .error fault => rw [pure_bind]; rfl
  | .ok (.done (filled, count)) => rw [pure_bind]; rfl
  | .ok (.tooSmall needed) => rw [pure_bind]; rfl

private theorem run_counting (length : Nat) : (counting (fillBytes fill) length).run =
    (fill (Buffer.zeroed (length * 8))).run >>= fun
      | .error fault => pure (.error fault)
      | .ok (.done (filled, count)) => pure (.ok (.done ((after length filled).first (min count (length * 8)))))
      | .ok (.tooSmall needed) => pure (.ok (.tooSmall (needed.map wordsFor))) := by
  rw [counting, fillBytes, ExceptT.run_bind, ExceptT.run_bind, bind_assoc]
  refine bind_congr fun answer => ?_
  match answer with
  | .error fault => exact pure_bind _ _
  | .ok (.done (filled, count)) => exact pure_bind _ _
  | .ok (.tooSmall needed) => exact pure_bind _ _

/-- What a round writes stays within its buffer, and cutting the words to it exposes no other byte. -/
private theorem take_toBytes_after (length count : Nat) (filled : Buffer UInt8) :
    (MemoryWord.toBytes ((after length filled).asWords.first (min (wordsFor (min count (length * 8))) length))).take
      (min count (length * 8)) = (after length filled).first (min count (length * 8)) :=
  Buffer.take_toBytes_first_asWords rfl (List.length_take_le _ _) (Nat.min_le_right _ _)

/-- Round by round, the words of one loop hold the bytes of the other. -/
private theorem run_loop_words (remaining length before : Nat) :
    ((loop policy allocator 8 call (fitting (fillWords fill)) remaining length).run.run before >>= fun (words, count) =>
      pure (words.map fun words => (MemoryWord.toBytes words).take count)) =
      (loop policy allocator 8 call (counting (fillBytes fill)) remaining length).run := by
  induction remaining generalizing length with
  | zero => exact pure_bind _ _
  | succ remaining ih =>
    rw [run_loop_succ, run_loop_succ]
    split
    case isTrue exceeds => exact pure_bind _ _
    case isFalse fits =>
      cases allocate allocator 8 length with
      | error fault => exact pure_bind _ _
      | ok _ =>
        dsimp only
        rw [StateT.run_bind, run_fitting, run_counting, bind_assoc, bind_assoc, bind_assoc]
        refine bind_congr fun answer => ?_
        match answer with
        | .error fault =>
          simp only [pure_bind, StateT.run_pure]
          rfl
        | .ok (.done (filled, count)) => simp only [pure_bind, StateT.run_pure, Except.map, take_toBytes_after]
        | .ok (.tooSmall needed) =>
          simp only [pure_bind]
          exact ih (next length (needed.map wordsFor))

/-- Growing buffers of words that are filled with bytes come to the same as growing buffers of bytes in whole
words. -/
theorem alignedUntilFits_eq_wordsUntilDone (initial : Nat) :
    alignedUntilFits policy call initial fill allocator =
      wordsUntilDone policy call initial (fillBytes fill) allocator := by
  have words : untilFits policy 8 call (wordsFor initial) (fillWords fill) allocator =
      loop policy allocator 8 call (fitting (fillWords fill)) policy.maxAttempts (max (wordsFor initial) 1) := rfl
  have bytes : wordsUntilDone policy call initial (fillBytes fill) allocator =
      loop policy allocator 8 call (counting (fillBytes fill)) policy.maxAttempts (max (wordsFor initial) 1) := rfl
  rw [bytes, alignedUntilFits, words]
  exact ExceptT.ext (run_loop_words policy allocator call fill policy.maxAttempts (max (wordsFor initial) 1) 0)

/-- What is made of the answer can be made of it in the attempt that finds it. -/
private theorem map_loop {γ : Type} (f : β → γ) (elementSize : Nat) (attempt : Nat → ExceptT Fault m (Attempt β))
    (remaining length : Nat) : f <$> loop policy allocator elementSize call attempt remaining length =
      loop policy allocator elementSize call (fun length => Attempt.map f <$> attempt length) remaining length := by
  apply ExceptT.ext
  induction remaining generalizing length with
  | zero =>
    rw [ExceptT.run_map]
    exact map_pure _ _
  | succ remaining ih =>
    rw [ExceptT.run_map, run_loop_succ, run_loop_succ]
    split
    case isTrue exceeds => exact map_pure _ _
    case isFalse fits =>
      cases allocate allocator elementSize length with
      | error fault => exact map_pure _ _
      | ok _ =>
        dsimp only
        rw [map_bind, ExceptT.run_map, bind_map_left]
        refine bind_congr fun answer => ?_
        match answer with
        | .error fault => exact map_pure _ _
        | .ok (.done result) => exact map_pure _ _
        | .ok (.tooSmall needed) =>
          dsimp only
          rw [← ExceptT.run_map]
          exact ih (next length needed)

private theorem map_counting {γ : Type} (f : β → γ) (attempt : Nat → ExceptT Fault m (Attempt β)) (length : Nat) :
    Attempt.map f <$> counting attempt length = counting (fun size => Attempt.map f <$> attempt size) length := by
  rw [counting, counting, map_bind, bind_map_left]
  refine bind_congr fun answer => ?_
  match answer with
  | .done result => exact map_pure _ _
  | .tooSmall needed => exact map_pure _ _

theorem map_wordsUntilDone {γ : Type} (f : β → γ) (initial : Nat) (attempt : Nat → ExceptT Fault m (Attempt β)) :
    f <$> wordsUntilDone policy call initial attempt allocator =
      wordsUntilDone policy call initial (fun size => Attempt.map f <$> attempt size) allocator := by
  have rounds {δ : Type} (attempt : Nat → ExceptT Fault m (Attempt δ)) :
      wordsUntilDone policy call initial attempt allocator =
        loop policy allocator 8 call (counting attempt) policy.maxAttempts (max (wordsFor initial) 1) := rfl
  rw [rounds, rounds, map_loop]
  simp only [map_counting]

end loops

/-! ### Sessions -/

/-- The number of words that the next buffer would have: the initial one before the first call, and the one that it
grows to after an answer that asked for more room. -/
inductive WordsWanted (initial : Nat) : List (Exchange UInt8) → Nat → Prop
  | first : WordsWanted initial [] initial
  | next (calls : List (Exchange UInt8)) {last : Exchange UInt8} {needed : Option Nat}
      (short : last.answer = .ok (.tooSmall needed)) :
      WordsWanted initial (calls ++ [last]) (grown (last.handed.length / 8) (needed.map wordsFor))

inductive WordsEnding (policy : BufferPolicy) (allocator : Allocator) (call : String) (attempts initial : Nat) :
    List (Exchange UInt8) → Outcome (List UInt8) → Prop
  | fits (before : List (Exchange UInt8)) {handed buffer : Buffer UInt8} {written : Nat} :
      WordsEnding policy allocator call attempts initial (before ++ [⟨handed, .ok (.done (buffer, written))⟩])
        (.ok ((handed.fill buffer.written).toList.take (min written handed.length)))
  | fails (before : List (Exchange UInt8)) {handed : Buffer UInt8} {fault : Fault} :
      WordsEnding policy allocator call attempts initial (before ++ [⟨handed, .error fault⟩]) (.error fault)
  | spent {calls : List (Exchange UInt8)} {words : Nat} (wanted : WordsWanted initial calls words)
      (all : calls.length = attempts) :
      WordsEnding policy allocator call attempts initial calls (.error (.report (.os call
        (.custom .other s!"buffer still too small after {policy.maxAttempts} attempts"))))
  | oversized {calls : List (Exchange UInt8)} {words : Nat} (wanted : WordsWanted initial calls words)
      (left : calls.length < attempts) (exceeds : capacity policy 8 < words) :
      WordsEnding policy allocator call attempts initial calls (.error (.report (.os call
        (.custom .other s!"buffer would exceed {policy.maxSize} bytes"))))
  | refused {calls : List (Exchange UInt8)} {words : Nat} (wanted : WordsWanted initial calls words)
      (left : calls.length < attempts) (denied : allocator.grants (words * 8) = false) :
      WordsEnding policy allocator call attempts initial calls
        (.error (.report (.outOfMemory (min (words * 8) Word.top))))

/-- What is guaranteed of the calls and the result when so many attempts remain, and the first buffer is to have so many
words and by these at least so many bytes. -/
structure WordsLawful (policy : BufferPolicy) (allocator : Allocator) (call : String) (attempts words initial : Nat)
    (calls : List (Exchange UInt8)) (result : Outcome (List UInt8)) : Prop where
  whole : ∀ e ∈ calls, 8 ∣ e.handed.length
  zeroed : ∀ e ∈ calls, e.handed.toList = List.replicate e.handed.length 0
  starts : ∀ e ∈ calls.head?, initial ≤ e.handed.length
  grows : calls.IsChain fun e later =>
    ∃ needed, e.answer = .ok (.tooSmall needed) ∧ ∀ n ∈ needed, min n Word.top ≤ later.handed.length
  ends : WordsEnding policy allocator call attempts words calls result

section sessions

variable {σ : Type} (policy : BufferPolicy) (allocator : Allocator) (call : String) (fill : Callback σ UInt8)

private theorem need_le_next (length : Nat) {needed : Option Nat} : ∀ n ∈ needed,
    min n Word.top ≤ next length (needed.map wordsFor) * 8 := by
  rintro n ⟨⟩
  have room := MemoryWord.le_wordsFor n
  rw [next_eq_grown, Option.map_some, grown]
  omega

/-- A round that can have its buffer makes one call. -/
private theorem loop_counting (remaining length : Nat) (memory : σ) (calls : List (Exchange UInt8))
    (fits : ¬ length > policy.maxSize / max 8 1) (granted : allocate allocator 8 length = .ok ()) :
    (loop policy allocator 8 call (counting (fillBytes fill.logged)) (remaining + 1) length).run (memory, calls) =
      match fill (Buffer.zeroed (length * 8)) memory with
      | (.error fault, later) => (.error fault, later, calls ++ [⟨Buffer.zeroed (length * 8), .error fault⟩])
      | (.ok (.done (filled, count)), later) => (.ok ((after length filled).first (min count (length * 8))), later,
          calls ++ [⟨Buffer.zeroed (length * 8), .ok (.done (filled, count))⟩])
      | (.ok (.tooSmall needed), later) =>
        (loop policy allocator 8 call (counting (fillBytes fill.logged)) remaining
          (next length (needed.map wordsFor))).run
          (later, calls ++ [⟨Buffer.zeroed (length * 8), .ok (.tooSmall needed)⟩]) := by
  have logged : (fill.logged (Buffer.zeroed (length * 8))).run (memory, calls) =
      match fill (Buffer.zeroed (length * 8)) memory with
      | (answer, later) => (answer, later, calls ++ [⟨Buffer.zeroed (length * 8), answer⟩]) := rfl
  have bound {γ : Type} (f : Outcome (Attempt (Buffer UInt8 × Nat)) → StateM (σ × List (Exchange UInt8)) γ) :
      ((fill.logged (Buffer.zeroed (length * 8))).run >>= f) (memory, calls) =
        f ((fill.logged (Buffer.zeroed (length * 8))).run (memory, calls)).1
          ((fill.logged (Buffer.zeroed (length * 8))).run (memory, calls)).2 := rfl
  rw [run_loop_succ, if_neg fits, granted]
  dsimp only
  rw [run_counting, bind_assoc, bound, logged]
  cases fill (Buffer.zeroed (length * 8)) memory with
  | mk answer later =>
    match answer with
    | .error fault => rfl
    | .ok (.done (filled, count)) => rfl
    | .ok (.tooSmall needed) => rfl

section endings

variable {policy allocator call} {attempts initial length : Nat} {calls : List (Exchange UInt8)}
  {result : Outcome (List UInt8)}

/-- A session that ends before its first call. -/
private theorem wordsLawful_nil (ends : WordsEnding policy allocator call attempts length [] result) :
    WordsLawful policy allocator call attempts length initial [] result where
  whole := by simp
  zeroed := by simp
  starts := by simp
  grows := .nil
  ends := ends

/-- A session that ends with its first call. -/
private theorem wordsLawful_singleton {answer : Outcome (Attempt (Buffer UInt8 × Nat))}
    (ends : WordsEnding policy allocator call attempts length [⟨Buffer.zeroed (length * 8), answer⟩] result) :
    WordsLawful policy allocator call attempts length (length * 8) [⟨Buffer.zeroed (length * 8), answer⟩] result where
  whole := List.forall_mem_singleton.mpr (Nat.dvd_mul_left 8 length)
  zeroed := List.forall_mem_singleton.mpr (toList_zeroed _)
  starts := by simp [Buffer.zeroed]
  grows := .singleton _
  ends := ends

section more

variable {e : Exchange UInt8} {needed : Option Nat} (short : e.answer = .ok (.tooSmall needed))
include short

private theorem wordsWanted_cons {words : Nat}
    (wanted : WordsWanted (grown (e.handed.length / 8) (needed.map wordsFor)) calls words) :
    WordsWanted initial (e :: calls) words := by
  cases wanted with
  | first => exact .next [] short
  | next calls later => exact .next (e :: calls) later

/-- An ending stays one behind a call that asked for more room. -/
private theorem wordsEnding_cons (ends : WordsEnding policy allocator call attempts
    (grown (e.handed.length / 8) (needed.map wordsFor)) calls result) :
    WordsEnding policy allocator call (attempts + 1) initial (e :: calls) result := by
  cases ends with
  | fits before => exact .fits (e :: before)
  | fails before => exact .fails (e :: before)
  | spent wanted all => exact .spent (wordsWanted_cons short wanted) (by simp [all])
  | oversized wanted left exceeds => exact .oversized (wordsWanted_cons short wanted) (by simpa using left) exceeds
  | refused wanted left denied => exact .refused (wordsWanted_cons short wanted) (by simpa using left) denied

end more

/-- A call that asked for more room, before a session that starts with the grown length. -/
private theorem wordsLawful_cons {needed : Option Nat}
    (later : WordsLawful policy allocator call attempts (next length (needed.map wordsFor))
      (next length (needed.map wordsFor) * 8) calls result) :
    WordsLawful policy allocator call (attempts + 1) length (length * 8)
      (⟨Buffer.zeroed (length * 8), .ok (.tooSmall needed)⟩ :: calls) result where
  whole := List.forall_mem_cons.mpr ⟨Nat.dvd_mul_left 8 length, later.whole⟩
  zeroed := List.forall_mem_cons.mpr ⟨toList_zeroed _, later.zeroed⟩
  starts := by simp [Buffer.zeroed]
  grows := later.grows.cons fun following member =>
    ⟨needed, rfl, fun n told => (need_le_next length n told).trans (later.starts following member)⟩
  ends := by
    have words : length * 8 / 8 = length := Nat.mul_div_cancel length (by decide)
    refine wordsEnding_cons rfl ?_
    rw [Buffer.zeroed, words, ← next_eq_grown]
    exact later.ends

end endings

/-- The calls a loop adds to the log, and its result, are lawful for the length it starts with. -/
private theorem loop_wordsLawful (remaining length : Nat) (memory : σ) (calls : List (Exchange UInt8)) :
    ∃ later memory' result,
      (loop policy allocator 8 call (counting (fillBytes fill.logged)) remaining length).run (memory, calls) =
        (result, memory', calls ++ later) ∧
      WordsLawful policy allocator call remaining length (length * 8) later result := by
  -- one round per remaining attempt; a round calls at most once, and only a request for room leads to the next
  induction remaining generalizing length memory calls with
  | zero =>
    refine ⟨[], memory, _, ?_, wordsLawful_nil (.spent .first rfl)⟩
    rw [List.append_nil]
    rfl
  | succ remaining ih =>
    by_cases fits : length > policy.maxSize / max 8 1
    · refine ⟨[], memory, _, ?_, wordsLawful_nil (.oversized .first (Nat.succ_pos _) fits)⟩
      rw [run_loop_succ, if_pos fits, List.append_nil]
      rfl
    obtain granted | ⟨denied, refusal⟩ := allocate_cases allocator 8 length
    · rw [loop_counting policy allocator call fill remaining length memory calls fits granted]
      cases fill (Buffer.zeroed (length * 8)) memory with
      | mk answer later =>
        match answer with
        | .error fault => exact ⟨_, later, _, rfl, wordsLawful_singleton (.fails [])⟩
        | .ok (.done (filled, count)) =>
          refine ⟨_, later, _, rfl, wordsLawful_singleton ?_⟩
          rw [first_eq_take]
          exact .fits []
        | .ok (.tooSmall needed) =>
          obtain ⟨following, memory', result, run, lawful⟩ := ih (next length (needed.map wordsFor)) later
            (calls ++ [⟨Buffer.zeroed (length * 8), .ok (.tooSmall needed)⟩])
          refine ⟨⟨Buffer.zeroed (length * 8), .ok (.tooSmall needed)⟩ :: following, memory', result, ?_,
            wordsLawful_cons lawful⟩
          rw [List.append_cons]
          exact run
    · refine ⟨[], memory, _, ?_, wordsLawful_nil (.refused .first (Nat.succ_pos _) denied)⟩
      rw [run_loop_succ, if_neg fits, refusal, List.append_nil]
      rfl

/-- Fills growing buffers of words with a callback that starts with the given memory. -/
def alignedSession (initial : Nat) (memory : σ) : Session UInt8 :=
  match (alignedUntilFits policy call initial fill.logged allocator).run (memory, []) with
  | (result, _, calls) => ⟨result, calls⟩

/-- Whatever the callback does, a session with buffers of words is the loop over bytes whose lengths are counted in
words. Each buffer is a whole number of words that has room for the initial size first, and for what the call before
asked for from then on; the result is what was written, to the byte. -/
theorem alignedSession_lawful (initial : Nat) (memory : σ) :
    alignedUntilFits policy call initial fill.logged allocator =
        wordsUntilDone policy call initial (fillBytes fill.logged) allocator ∧
      WordsLawful policy allocator call policy.maxAttempts (max (wordsFor initial) 1) initial
        (alignedSession policy allocator call fill initial memory).calls
        (alignedSession policy allocator call fill initial memory).result := by
  have bytewise := alignedUntilFits_eq_wordsUntilDone policy allocator call fill.logged initial
  refine ⟨bytewise, ?_⟩
  have rounds : wordsUntilDone policy call initial (fillBytes fill.logged) allocator =
      loop policy allocator 8 call (counting (fillBytes fill.logged)) policy.maxAttempts
        (max (wordsFor initial) 1) := rfl
  obtain ⟨calls, memory', result, run, lawful⟩ :=
    loop_wordsLawful policy allocator call fill policy.maxAttempts (max (wordsFor initial) 1) memory []
  have made : alignedSession policy allocator call fill initial memory = ⟨result, calls⟩ := by
    rw [alignedSession, bytewise, rounds, run, List.nil_append]
  have room : initial ≤ max (wordsFor initial) 1 * 8 := by
    have enough := MemoryWord.le_wordsFor initial
    omega
  rw [made]
  exact { lawful with starts := fun e first => room.trans (lawful.starts e first) }

/-- Nine bytes take two words, the second of which holds one of them. -/
example : (alignedSession ⟨64, 3⟩ .standard "call" (.serving some fun _ => [1, 2, 3, 4, 5, 6, 7, 8, 9]) 3 0).result =
    .ok [1, 2, 3, 4, 5, 6, 7, 8, 9] := by cbv

end sessions
end Growth

namespace Windows

def nativeFill (call : String) (lacksRoom : List NtStatus) (ask : Nat → Program NativeReply) (buffer : Buffer UInt8) :
    Query (Attempt (Buffer UInt8 × Nat)) := do
  let reply ← (ask buffer.length : Program NativeReply)
  if lacksRoom.contains reply.status then
    return .tooSmall (if reply.length = 0 then none else some reply.length)
  if NtStatus.isFailure reply.status then nativeFailure call reply.status
  return .done (buffer.fill reply.bytes, reply.length)

/-- The bytes that native calls are read from are those of buffers of words. -/
theorem bytes_nativeUntilFits (context : Context) (call : String) (initial : Nat) (lacksRoom : List NtStatus)
    (ask : Nat → Program NativeReply) :
    Filled.bytes <$> nativeUntilFits context call initial lacksRoom ask =
      Growth.alignedUntilFits context.buffers call initial (nativeFill call lacksRoom ask) := by
  rw [Growth.alignedUntilFits_eq_wordsUntilDone, nativeUntilFits, Growth.map_wordsUntilDone]
  congr 1
  funext size
  rw [Growth.fillBytes, nativeFill, map_bind, bind_assoc]
  refine bind_congr fun reply => ?_
  split
  case isTrue short =>
    rw [map_pure, pure_bind]
    rfl
  case isFalse enough =>
    split
    case isTrue fails => rfl
    case isFalse succeeds =>
      rw [pure_bind]
      dsimp only
      rw [Buffer.fill_written, map_pure]
      rfl

end Windows
end HostProbe
