import HostProbe.Footprint.WorkingSet
import HostProbe.Host
import HostProbe.Proofs.Endings
import Mathlib.Algebra.Group.Nat.Defs

/-! Counting the pages of a working set that may grow between the calls that ask for it. The count is what a buffer
holds, whatever the system says about it; a working set that does not outgrow the headroom is read with the second
buffer at the latest. -/
namespace HostProbe.Footprint

variable {σ : Type} {host : (c : Call) → StateM σ c.Answer} {state : σ} {process : ProcessHandle}
  {remaining room : Nat}

/-! ### One buffer -/

/-- Blocks in a buffer that a call has filled: what was given, as far as there is room, and zeros behind it. -/
def held (reply : WorkingSetReply) (room : Nat) : List Nat :=
  reply.blocks.take room ++ List.replicate (room - reply.blocks.length) 0

def unshared (block : Nat) : Bool := !block.testBit 8

theorem length_held (reply : WorkingSetReply) (room : Nat) : (held reply room).length = room := by
  rw [held, List.length_append, List.length_take, List.length_replicate]
  omega

/-- Pages are counted among the first blocks of the buffer, as many as the system says or as there are. -/
theorem unsharedPages_eq (reply : WorkingSetReply) (room : Nat) :
    unsharedPages reply room = ((held reply room).take (min reply.count room)).countP unshared := by
  have zeros (n : Nat) : (List.replicate n 0).countP unshared = n := by
    rw [List.countP_replicate]
    rfl
  rw [unsharedPages, held, List.take_append, List.take_take, List.take_replicate, List.countP_append, zeros,
    List.length_take, List.length_take, Nat.min_eq_left (Nat.min_le_right reply.count room)]
  refine congrArg (((reply.blocks.take (min reply.count room)).countP unshared) + ·) ?_
  omega

theorem unsharedPages_all {blocks : List Nat} (fits : blocks.length ≤ room) :
    unsharedPages ⟨blocks.length, blocks⟩ room = blocks.countP unshared := by
  rw [unsharedPages_eq, held, List.take_of_length_le fits, Nat.min_eq_left fits, List.take_left' rfl]

/-! ### One attempt -/

def settle (process : ProcessHandle) (remaining room : Nat) : RoomReply IoError WorkingSetReply → PageReading Nat
  | .filled reply => pure (unsharedPages reply room)
  | .failed cause => throw (.report cause)
  | .tooSmall needed => do
    let grown ← ofOutcome (Word.add (max needed room) (needed / 4))
    countUnshared process remaining (← ofOutcome (Word.add grown 64))

theorem ofOutcome_add {a b : Nat} (fits : a + b < Word.span) : ofOutcome (Word.add a b) = pure (a + b) := by
  rw [Word.add, Word.check, if_pos fits]
  rfl

theorem countUnshared_of_oversized (bounded : room + 1 < Word.span) (large : 2 ^ 32 ≤ (room + 1) * 8) :
    countUnshared process (remaining + 1) room = throw (.report (.bare .outOfMemory)) := by
  have full : (room + 1) * 8 ≥ 1 <<< 32 := large
  rw [countUnshared, ofOutcome_add bounded, pure_bind]
  exact if_pos full

/-- One attempt: a buffer within 32 bits is handed to the kernel, and its answer decides. -/
theorem countUnshared_of_fits (fits : (room + 1) * 8 < 2 ^ 32) :
    (countUnshared process (remaining + 1) room).run =
      .ask (.windows (.workingSet process room)) fun reply => (settle process remaining room reply).run := by
  have bounded : room + 1 < Word.span := by
    unfold Word.span
    omega
  have small : ¬(room + 1) * 8 ≥ 1 <<< 32 := Nat.not_le.mpr fits
  rw [countUnshared, ofOutcome_add bounded, pure_bind]
  refine (congrArg ExceptT.run (if_neg small)).trans ?_
  refine congrArg (Program.ask _) (funext fun reply => ?_)
  cases reply <;> rfl

/-- An answer that asks for room is followed by an attempt with a quarter more, and 64 blocks. -/
theorem settle_of_tooSmall {needed : Nat} (moderate : needed < 2 ^ 61) (bounded : room < 2 ^ 62) :
    settle process remaining room (.tooSmall needed) =
      countUnshared process remaining (max needed room + needed / 4 + 64) := by
  have first : max needed room + needed / 4 < Word.span := by
    unfold Word.span
    omega
  have second : max needed room + needed / 4 + 64 < Word.span := by
    unfold Word.span
    omega
  rw [settle, ofOutcome_add first, pure_bind, ofOutcome_add second, pure_bind]

/-- One question, and what the attempt does with its answer. -/
theorem attempt_step (remaining : Nat) (fits : (room + 1) * 8 < 2 ^ 32) {reply : RoomReply IoError WorkingSetReply}
    (replied : ((host (.windows (.workingSet process room))).run state).1 = reply) :
    (countUnshared process (remaining + 1) room).run.ran host state =
        (settle process remaining room reply).run.ran host ((host (.windows (.workingSet process room))).run state).2 ∧
      (countUnshared process (remaining + 1) room).run.told host state =
        ⟨.windows (.workingSet process room), reply⟩ ::
          (settle process remaining room reply).run.told host
            ((host (.windows (.workingSet process room))).run state).2 := by
  subst replied
  rw [countUnshared_of_fits fits]
  exact ⟨rfl, rfl⟩

/-! ### All attempts -/

/-- How a count goes: it asks for few buffers, each of which can be named in 32 bits, does not abort, and what it gives
is counted among the first blocks of the last buffer. -/
structure Bounded (host : (c : Call) → StateM σ c.Answer) (process : ProcessHandle) (attempts : Nat)
    (reading : PageReading Nat) (state : σ) : Prop where
  few : (reading.run.told host state).length ≤ attempts
  asks : ∀ exchange ∈ reading.run.told host state,
    ∃ room, exchange.question = .windows (.workingSet process room) ∧ (room + 1) * 8 < 2 ^ 32
  spared : (reading.run.ran host state).1 ≠ .error .abort
  counts : ∀ pages, (reading.run.ran host state).1 = .ok pages → ∃ room reply blocks,
    (reading.run.told host state).getLast? = some ⟨.windows (.workingSet process room), .filled reply⟩ ∧
      blocks <+: held reply room ∧ blocks.length = min reply.count room ∧ pages = blocks.countP unshared

theorem Bounded.throw (attempts : Nat) (error : IoError) (state : σ) :
    Bounded host process attempts (throw (.report error)) state where
  few := Nat.zero_le _
  asks := List.forall_mem_nil _
  spared := nofun
  counts := nofun

section step

variable (fits : (room + 1) * 8 < 2 ^ 32)
include fits

theorem Bounded.filled {reply : WorkingSetReply}
    (replied : ((host (.windows (.workingSet process room))).run state).1 = .filled reply) :
    Bounded host process (remaining + 1) (countUnshared process (remaining + 1) room) state := by
  obtain ⟨ran, told⟩ := attempt_step remaining fits replied
  have counted : ((countUnshared process (remaining + 1) room).run.ran host state).1 =
      .ok (unsharedPages reply room) := congrArg Prod.fst ran
  refine ⟨?_, ?_, ?_, fun pages answered => ⟨room, reply, (held reply room).take (min reply.count room), ?_⟩⟩
  · rw [told]
    exact Nat.succ_le_succ (Nat.zero_le _)
  · rw [told]
    exact List.forall_mem_singleton.mpr ⟨room, rfl, fits⟩
  · rw [counted]
    exact nofun
  · rw [counted, unsharedPages_eq] at answered
    refine ⟨told ▸ rfl, List.take_prefix _ _, ?_, (Except.ok.inj answered).symm⟩
    rw [List.length_take, length_held, Nat.min_eq_left (Nat.min_le_right _ _)]

theorem Bounded.failed {cause : IoError}
    (replied : ((host (.windows (.workingSet process room))).run state).1 = .failed cause) :
    Bounded host process (remaining + 1) (countUnshared process (remaining + 1) room) state := by
  obtain ⟨ran, told⟩ := attempt_step remaining fits replied
  have result : ((countUnshared process (remaining + 1) room).run.ran host state).1 = .error (.report cause) :=
    congrArg Prod.fst ran
  refine ⟨?_, ?_, ?_, ?_⟩
  · rw [told]
    exact Nat.succ_le_succ (Nat.zero_le _)
  · rw [told]
    exact List.forall_mem_singleton.mpr ⟨room, rfl, fits⟩
  · rw [result]
    exact nofun
  · rw [result]
    exact nofun

theorem Bounded.tooSmall {needed : Nat}
    (replied : ((host (.windows (.workingSet process room))).run state).1 = .tooSmall needed)
    (rest : Bounded host process remaining (settle process remaining room (.tooSmall needed))
      ((host (.windows (.workingSet process room))).run state).2) :
    Bounded host process (remaining + 1) (countUnshared process (remaining + 1) room) state := by
  obtain ⟨ran, told⟩ := attempt_step remaining fits replied
  refine ⟨?_, ?_, ran ▸ rest.spared, fun pages answered => ?_⟩
  · rw [told]
    exact Nat.succ_le_succ rest.few
  · rw [told]
    exact List.forall_mem_cons.mpr ⟨⟨room, rfl, fits⟩, rest.asks⟩
  · rw [ran] at answered
    obtain ⟨last, reply, blocks, ends, counted⟩ := rest.counts pages answered
    refine ⟨last, reply, blocks, ?_, counted⟩
    rw [told, List.getLast?_cons, ends]
    rfl

end step

/-- Whatever the system does, as long as no count that it reports comes near the largest word. -/
theorem countUnshared_bounded (moderate : ∀ room state needed,
      ((host (.windows (.workingSet process room))).run state).1 = .tooSmall needed → needed < 2 ^ 61)
    (bounded : room < 2 ^ 62) : Bounded host process remaining (countUnshared process remaining room) state := by
  induction remaining generalizing room state with
  | zero => exact .throw _ _ _
  | succ remaining ih =>
    by_cases fits : (room + 1) * 8 < 2 ^ 32
    case neg =>
      have within : room + 1 < Word.span := by
        unfold Word.span
        omega
      rw [countUnshared_of_oversized within (Nat.not_lt.mp fits)]
      exact .throw _ _ _
    cases replied : ((host (.windows (.workingSet process room))).run state).1 with
    | filled reply => exact .filled fits replied
    | failed cause => exact .failed fits replied
    | tooSmall needed =>
      -- A buffer that was asked for is far smaller than the bound, so a moderate count keeps the next one below it.
      have reported := moderate room state needed replied
      have small : max needed room + needed / 4 + 64 < 2 ^ 62 := by omega
      refine .tooSmall fits replied ?_
      rw [settle_of_tooSmall reported bounded]
      exact ih small

/-! ### Working sets that grow -/

/-- A host answers with a process's working set as it is at each call, of which its memory tells the number. -/
structure Samples (host : (c : Call) → StateM σ c.Answer) (process : ProcessHandle) (turn : σ → Nat)
    (sets : Nat → List Nat) : Prop where
  told : ∀ room state, ((host (.windows (.workingSet process room))).run state).1 =
    if room < (sets (turn state)).length then .tooSmall (sets (turn state)).length
    else .filled ⟨(sets (turn state)).length, sets (turn state)⟩
  next : ∀ room state, turn ((host (.windows (.workingSet process room))).run state).2 = turn state + 1

variable {turn : σ → Nat} {sets : Nat → List Nat}

/-- A buffer with room for a working set is the last one. -/
theorem Samples.fits (samples : Samples host process turn sets) (remaining : Nat) (fits : (room + 1) * 8 < 2 ^ 32)
    (roomy : (sets (turn state)).length ≤ room) :
    ((countUnshared process (remaining + 1) room).run.ran host state).1 =
        .ok ((sets (turn state)).countP unshared) ∧
      ((countUnshared process (remaining + 1) room).run.told host state).length = 1 := by
  obtain ⟨ran, told⟩ := attempt_step remaining fits
    ((samples.told room state).trans (if_neg (Nat.not_lt.mpr roomy)))
  rw [ran, told, ← unsharedPages_all roomy]
  exact ⟨rfl, rfl⟩

/-- Behind a buffer that is too small comes one with headroom. -/
theorem Samples.outgrown (samples : Samples host process turn sets) (remaining : Nat) (fits : (room + 1) * 8 < 2 ^ 32)
    (short : room < (sets (turn state)).length) (moderate : (sets (turn state)).length < 2 ^ 61) :
    ∃ after, turn after = turn state + 1 ∧
      (countUnshared process (remaining + 1) room).run.ran host state =
        (countUnshared process remaining
          ((sets (turn state)).length + (sets (turn state)).length / 4 + 64)).run.ran host after ∧
      ((countUnshared process (remaining + 1) room).run.told host state).length =
        ((countUnshared process remaining
          ((sets (turn state)).length + (sets (turn state)).length / 4 + 64)).run.told host after).length + 1 := by
  obtain ⟨ran, told⟩ := attempt_step remaining fits
    ((samples.told room state).trans (if_pos short))
  have bounded : room < 2 ^ 62 := by omega
  rw [settle_of_tooSmall moderate bounded, Nat.max_eq_left (Nat.le_of_lt short)] at ran told
  exact ⟨_, samples.next room state, ran, congrArg List.length told⟩

/-- A working set that grows by no more than the headroom is counted with one of the first two buffers. Whatever else
the system does, few buffers are tried, and what is counted is in the last of them. -/
theorem workingSet_settles (host : (c : Call) → StateM σ c.Answer) (process : ProcessHandle) (state : σ) :
    (∀ turn sets, Samples host process turn sets → turn state = 0 →
      (sets 1).length ≤ (sets 0).length + (sets 0).length / 4 + 64 →
      ((sets 0).length + (sets 0).length / 4 + 64 + 1) * 8 < 2 ^ 32 →
      ∃ k < 2, (k = 0 ↔ (sets 0).length ≤ 4096) ∧
        ((countUnshared process workingSetAttempts initialBlocks).run.ran host state).1 =
          .ok ((sets k).countP unshared) ∧
        ((countUnshared process workingSetAttempts initialBlocks).run.told host state).length = k + 1) ∧
    ((∀ room state needed,
        ((host (.windows (.workingSet process room))).run state).1 = .tooSmall needed → needed < 2 ^ 61) →
      Bounded host process 8 (countUnshared process workingSetAttempts initialBlocks) state) := by
  refine ⟨fun turn sets samples first growth small => ?_, fun moderate => countUnshared_bounded moderate (by decide)⟩
  have start : (initialBlocks + 1) * 8 < 2 ^ 32 := by decide
  by_cases roomy : (sets 0).length ≤ initialBlocks
  case pos =>
    rw [← first] at roomy
    obtain ⟨counted, asked⟩ := samples.fits 7 start roomy
    rw [first] at roomy counted
    exact ⟨0, by decide, iff_of_true rfl roomy, counted, asked⟩
  case neg =>
    have short : initialBlocks < (sets (turn state)).length := first ▸ Nat.not_le.mp roomy
    have moderate : (sets (turn state)).length < 2 ^ 61 := by
      rw [first]
      omega
    obtain ⟨after, second, ran, asked⟩ := samples.outgrown 7 start short moderate
    rw [first] at ran asked second
    have enough : (sets (turn after)).length ≤ (sets 0).length + (sets 0).length / 4 + 64 := second ▸ growth
    obtain ⟨counted, once⟩ := samples.fits 6 small enough
    rw [second] at counted
    exact ⟨1, by decide, iff_of_false nofun roomy, ran ▸ counted, asked.trans (congrArg (· + 1) once)⟩

/-- A working set that outgrows the first buffer, and then grows by all of the headroom of the second. -/
def swellingSets (call : Nat) : List Nat :=
  if call = 0 then List.replicate 5000 0x001 else List.replicate 2000 0x001 ++ List.replicate 4314 0x101

def swellingHost : (c : Call) → StateM Nat c.Answer
  | .windows (.workingSet _ room) => modifyGet fun turn =>
    let set := swellingSets turn
    (if room < set.length then .tooSmall set.length else .filled ⟨set.length, set⟩, turn + 1)
  | c => return Host.reply {} c

/-- A host that tells of more pages than the buffer has room for, and gives only one. -/
def boastingHost : (c : Call) → StateM Unit c.Answer
  | .windows (.workingSet ..) => return .filled ⟨9999, [0x101]⟩
  | c => return Host.reply {} c

/-- A set that outgrows one buffer, and a host that tells of more pages than it gives. -/
theorem workingSet_settles_swelling :
    (Samples swellingHost .current id swellingSets ∧
        (swellingSets 1).length = (swellingSets 0).length + (swellingSets 0).length / 4 + 64 ∧
        ((swellingSets 0).length + (swellingSets 0).length / 4 + 64 + 1) * 8 < 2 ^ 32) ∧
      ((countUnshared .current workingSetAttempts initialBlocks).run.ran swellingHost 0).1 = .ok 2000 ∧
      ((countUnshared .current workingSetAttempts initialBlocks).run.told swellingHost 0).length = 2 ∧
      (∀ room state needed, ((boastingHost (.windows (.workingSet .current room))).run state).1 = .tooSmall needed →
        needed < 2 ^ 61) ∧
      Bounded boastingHost .current 8 (countUnshared .current workingSetAttempts initialBlocks) () ∧
      ((countUnshared .current workingSetAttempts initialBlocks).run.ran boastingHost ()).1 = .ok 4095 := by
  have samples : Samples swellingHost .current id swellingSets := ⟨fun _ _ => rfl, fun _ _ => rfl⟩
  have before : (swellingSets 0).length = 5000 := List.length_replicate
  have after : (swellingSets 1).length = 6314 := by
    rw [swellingSets, if_neg Nat.one_ne_zero, List.length_append, List.length_replicate, List.length_replicate]
  have counted : (swellingSets 1).countP unshared = 2000 := by
    rw [swellingSets, if_neg Nat.one_ne_zero, List.countP_append, List.countP_replicate, List.countP_replicate]
    rfl
  have moderate : ∀ room state needed, ((boastingHost (.windows (.workingSet .current room))).run state).1 =
      .tooSmall needed → needed < 2 ^ 61 := nofun
  have fits {first second : Nat} : first = 5000 → second = 6314 → second = first + first / 4 + 64 ∧
      (first + first / 4 + 64 + 1) * 8 < 2 ^ 32 := by
    rintro rfl rfl
    decide
  obtain ⟨growth, small⟩ := fits before after
  obtain ⟨k, below, first, pages, asked⟩ :=
    (workingSet_settles swellingHost .current 0).1 id swellingSets samples rfl (Nat.le_of_eq growth) small
  have second : k = 1 := by
    rw [before] at first
    omega
  subst second
  exact ⟨⟨samples, growth, small⟩, counted ▸ pages, asked, moderate,
    (workingSet_settles boastingHost .current ()).2 moderate, rfl⟩

end HostProbe.Footprint
