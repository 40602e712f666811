import HostProbe.Host
import HostProbe.Proofs.Endings
import HostProbe.Proofs.Overflow.Words
import HostProbe.Windows

/-! What is read from the memory of other processes. Addresses and sizes in it are theirs to choose; a query gives up
just where one of them, with the distance of what is looked for, leaves the word. -/
namespace HostProbe.Windows

variable {α β σ : Type} {context : Context} {pid : Pid}

/-! ### Parts that always return -/

section returns

open Query

theorem returns_answered (call : String) (reply : Except IoError α) : (answered call reply).Returns := by
  cases reply with
  | ok a => exact .pure a
  | error cause => exact .report _

/-- However often a call asks for room, it ends with an answer or an error. -/
theorem returns_nativeUntilFits (call : String) (initial : Nat) (lacksRoom : List NtStatus)
    (ask : Nat → Program NativeReply) : (nativeUntilFits context call initial lacksRoom ask).Returns := by
  refine .loop (fun words => .bind (.bind (.ofProgram _) fun reply => ?_) fun attempted => ?_) _ _
  · refine .ite (.pure _) ?_
    cases NtStatus.isFailure reply.status with
    | true => exact .report _
    | false => exact .pure _
  · cases attempted with
    | done filled => exact .pure _
    | tooSmall needed => exact .pure _

theorem returns_openProcess (access : Nat) : (openProcess context pid access).Returns := by
  have checked : checkPid pid ≠ .error .abort := by
    rw [checkPid]
    split
    · exact nofun
    · exact nofun
  refine .bind (.lift checked) fun _ => .ite (.bind (.report _) fun _ => ?_) ?_
  all_goals
    refine .bind (.ofProgram _) fun opening => ?_
    cases opening with
    | error cause => exact .ite (.bind (.report _) fun _ => .fail _ _ _ _) (.fail _ _ _ _)
    | ok =>
      refine .bind (.ofProgram _) fun ending => ?_
      cases ending with
      | error cause => exact .pure _
      | ok code => exact .ite (.bind (.ofProgram _) fun listed => .ite (.report _) (.pure _)) (.pure _)

theorem returns_readMemory (address size : Nat) : (readMemory pid address size).Returns :=
  .bind (.ofProgram _) fun _ => returns_answered _ _

theorem returns_readPointer (address : Nat) : (readPointer pid address).Returns := by
  refine .bind (returns_readMemory _ _) fun bytes => ?_
  split
  · exact .pure _
  · exact .report _

theorem returns_commandLine : (commandLine context pid).Returns :=
  .bind (returns_openProcess _) fun _ => .bind (.classifyFor (returns_nativeUntilFits _ _ _ _)) fun _ => .pure _

end returns

/-! ### Sums that leave the word -/

section sums

variable (host : (c : Call) → StateM σ c.Answer) (context : Context) (pid : Pid) (state : σ)

/-- The process's block lies so high that the place of its parameters is no address. -/
def BlockExcess : Prop :=
  ∃ after block later, (openProcess context pid (Access.query ||| Access.readMemory)).ran host state = (.ok (), after) ∧
    (host (.windows (.environmentBlock pid))).run after = (.ok block, later) ∧ Word.span ≤ block + parametersOffset

/-- The parameters lie so high that something so far behind their beginning has no address. -/
def ParametersExcess (distance : Nat) : Prop :=
  ∃ found after, (parameters context pid).ran host state = (.ok found, after) ∧ Word.span ≤ found + distance

/-- The range that the environment lies in has its end behind the last address. -/
def RangeExcess : Prop :=
  ∃ found after block later range last, (parameters context pid).ran host state = (.ok found, after) ∧
    found + environmentOffset < Word.span ∧
    (readPointer pid (found + environmentOffset)).ran host after = (.ok block, later) ∧
    (host (.windows (.pages pid block))).run later = (.ok range, last) ∧ Word.span ≤ range.base + range.size

variable {host context pid state}

/-- Behind a part that returns, only the rest can give up. -/
theorem aborts_bind_of_returns {query : Query α} {f : α → Query β} (returns : query.Returns) :
    (query >>= f).Aborts host state ↔
      ∃ a after, query.ran host state = (.ok a, after) ∧ (f a).Aborts host after := by
  rw [Query.aborts_bind_iff, or_iff_right returns.not_aborts]

theorem aborts_bind_add {a b : Nat} {f : Nat → Query β} : (Query.lift (Word.add a b) >>= f).Aborts host state ↔
    Word.span ≤ a + b ∨ a + b < Word.span ∧ (f (a + b)).Aborts host state := by
  rw [Query.aborts_bind_iff, Query.aborts_lift_iff]
  rcases Nat.lt_or_ge (a + b) Word.span with fits | excess
  · rw [Word.add_of_lt fits, or_iff_right (Nat.not_le.mpr fits), and_iff_right fits]
    exact ⟨fun | .inr ⟨_, _, rfl, later⟩ => later, fun later => .inr ⟨_, _, rfl, later⟩⟩
  · exact iff_of_true (.inl (Word.check_eq_abort_iff.mpr excess)) (.inl excess)

/-- A block at no address is refused before anything is added to it. -/
private theorem place_aborts_iff {block : Nat} {error : Error} {f : Nat → Query α}
    (returns : ∀ place, (f place).Returns) :
    (do
      if block = 0 then Query.report error
      f (← Query.lift (Word.add block parametersOffset)) : Query α).Aborts host state ↔
      Word.span ≤ block + parametersOffset := by
  by_cases none : block = 0
  · rw [if_pos none]
    refine iff_of_false nofun ?_
    rw [none]
    decide
  · rw [if_neg none, aborts_bind_add]
    exact or_iff_left fun aborts => (returns _).not_aborts aborts.2

/-- The place of the parameters aborts exactly where it is no address. -/
theorem parameters_aborts_iff : (parameters context pid).Aborts host state ↔ BlockExcess host context pid state := by
  rw [parameters, aborts_bind_of_returns (returns_openProcess _), BlockExcess]
  have returns (place : Nat) : Query.Returns ((live context).classifyFor pid (readPointer pid place)) :=
    .classifyFor (returns_readPointer place)
  constructor
  · rintro ⟨_, after, opened, aborts⟩
    replace aborts := Query.aborts_call_iff.mp aborts
    cases reply : (host (.windows (.environmentBlock pid))).run after with
    | mk answer later =>
      rw [reply] at aborts
      cases answer with
      | error status => exact absurd aborts (Query.Returns.classifyFor (.report _)).not_aborts
      | ok block => exact ⟨after, block, later, opened, reply, (place_aborts_iff returns).mp aborts⟩
  · rintro ⟨after, block, later, opened, reply, excess⟩
    refine ⟨_, after, opened, Query.aborts_call_iff.mpr ?_⟩
    rw [reply]
    exact (place_aborts_iff returns).mpr excess

/-- The working directory aborts exactly where its place is no address. -/
theorem workingDirectory_aborts_iff : (workingDirectory context pid).Aborts host state ↔
    BlockExcess host context pid state ∨ ParametersExcess host context pid state directoryOffset := by
  rw [workingDirectory, Query.aborts_bind_iff, parameters_aborts_iff, ParametersExcess]
  refine or_congr_right (exists_congr fun found => exists_congr fun after => and_congr_right fun _ => ?_)
  rw [Query.aborts_classifyFor_iff, aborts_bind_add]
  refine or_iff_left fun aborts => Query.Returns.not_aborts (.bind (returns_readMemory _ _) fun raw => ?_) aborts.2
  cases StringPlace.layout.first? raw with
  | none => exact .pure _
  | some place => exact .bind (returns_readMemory _ _) fun _ => .pure _

/-- What remains of a range aborts exactly where the range ends behind the last address. -/
theorem remaining_aborts_iff {address : Nat} : (remaining pid address).Aborts host state ↔
    ∃ range last, (host (.windows (.pages pid address))).run state = (.ok range, last) ∧
      Word.span ≤ range.base + range.size := by
  rw [remaining]
  refine Query.aborts_call_iff.trans ?_
  cases reply : (host (.windows (.pages pid address))).run state with
  | mk answer last =>
    cases answer with
    | error cause => exact iff_of_false nofun fun ⟨_, _, told, _⟩ => nomatch told
    | ok range =>
      refine Iff.trans (aborts_bind_add (f := fun stop => pure (stop - address))) ?_
      constructor
      · rintro (excess | ⟨_, ended⟩)
        · exact ⟨range, last, rfl, excess⟩
        · cases ended
      · rintro ⟨_, _, told, excess⟩
        cases told
        exact .inl excess

/-- The environment aborts exactly where a place on the way to it is no address. -/
theorem environment_aborts_iff : (environment context pid).Aborts host state ↔
    BlockExcess host context pid state ∨ ParametersExcess host context pid state environmentOffset ∨
      RangeExcess host context pid state := by
  rw [environment, Query.aborts_bind_iff, parameters_aborts_iff, ParametersExcess, RangeExcess]
  have read {found : Nat} {after : σ} : Query.Aborts host ((live context).classifyFor pid do
      let block ← readPointer pid (← Query.lift (Word.add found environmentOffset))
      let size := min (← remaining pid block) environmentLimit
      return splitEnvironment (← readMemory pid block size)) after ↔
      Word.span ≤ found + environmentOffset ∨ found + environmentOffset < Word.span ∧
        ∃ block later, (readPointer pid (found + environmentOffset)).ran host after = (.ok block, later) ∧
          (remaining pid block).Aborts host later := by
    rw [Query.aborts_classifyFor_iff, aborts_bind_add, aborts_bind_of_returns (returns_readPointer _)]
    refine or_congr_right (and_congr_right fun _ => exists_congr fun block => exists_congr fun later =>
      and_congr_right fun _ => ?_)
    rw [Query.aborts_bind_iff]
    refine or_iff_left fun ⟨_, _, _, aborts⟩ => ?_
    exact Query.Returns.not_aborts (.bind (returns_readMemory _ _) fun _ => .pure _) aborts
  refine or_congr_right ?_
  constructor
  · rintro ⟨found, after, given, aborts⟩
    rcases read.mp aborts with excess | ⟨fits, block, later, pointed, past⟩
    · exact .inl ⟨found, after, given, excess⟩
    · obtain ⟨range, last, told, excess⟩ := remaining_aborts_iff.mp past
      exact .inr ⟨found, after, block, later, range, last, given, fits, pointed, told, excess⟩
  · rintro (⟨found, after, given, excess⟩ |
      ⟨found, after, block, later, range, last, given, fits, pointed, told, excess⟩)
    · exact ⟨found, after, given, read.mpr (.inl excess)⟩
    · exact ⟨found, after, given, read.mpr (.inr ⟨fits, block, later, pointed,
        remaining_aborts_iff.mpr ⟨range, last, told, excess⟩⟩)⟩

/-- A read that is done for another process gives up just where a sum is too large: of the addresses of its block and
of its parameters with a distance, and of the beginning and the size of a range. The command line is told within one
buffer, whose addresses are compared before they are added, and so is the list of processes. -/
theorem pointers_decide (host : (c : Call) → StateM σ c.Answer) (context : Context) (pid : Pid) (state : σ) :
    (((platform context).workingDirectory pid).Aborts host state ↔
      BlockExcess host context pid state ∨ ParametersExcess host context pid state directoryOffset) ∧
    (((platform context).environment pid).Aborts host state ↔
      BlockExcess host context pid state ∨ ParametersExcess host context pid state environmentOffset ∨
        RangeExcess host context pid state) ∧
    ¬((platform context).commandLine pid).Aborts host state := by
  refine ⟨workingDirectory_aborts_iff, ?_, returns_commandLine.not_aborts⟩
  rw [← environment_aborts_iff]
  exact Query.aborts_bind_iff.trans (or_iff_left fun ⟨_, _, _, ended⟩ => nomatch ended)

end sums

/-- A process with its block at an address, one pointer in all of its memory, and one range of pages. -/
def foreignProcess (block pointer : Nat) (range : PageRange) : (c : Call) → StateM Unit c.Answer
  | .windows (.openProcess ..) => return .ok ()
  | .windows (.exitCode _) => return .ok stillActive
  | .windows (.environmentBlock _) => return .ok block
  | .windows (.readMemory ..) => return .ok (Bytes.ofNat 8 pointer)
  | .windows (.pages ..) => return .ok range
  | c => return Host.reply {} c

/-- The last of all addresses makes each sum give up, as that of a block, of parameters and as the size of a range. -/
theorem highAddresses_abort :
    ((platform {}).workingDirectory 42).Aborts (foreignProcess Word.top 0 {}) () ∧
    ((platform {}).workingDirectory 42).Aborts (foreignProcess 0x10000 Word.top {}) () ∧
    ((platform {}).environment 42).Aborts (foreignProcess 0x10000 Word.top {}) () ∧
    ((platform {}).environment 42).Aborts (foreignProcess 0x10000 0x5000 { base := 0x5000, size := Word.top }) () :=
  ⟨rfl, rfl, rfl, rfl⟩

end HostProbe.Windows
