import HostProbe.Proofs.AddressSpace.Steps
import HostProbe.Proofs.Fields

/-! Vectors of strings in the memory of another process, however the reads of it are cut into pieces. What a vector
tells is said of the memory alone, and every reader of that memory finds just this. -/
namespace HostProbe.AddressSpace

open Growth (run_bind)

/-! ### Memories -/

/-- What stands at an address: a byte, the end of what can be read, or a place where reading fails. -/
inductive Cell
  | byte (b : UInt8)
  | ends
  | fails (cause : IoError)
  deriving DecidableEq

abbrev Memory := Nat → Cell

namespace Memory

/-- The bytes stand in the memory from an address on. -/
def Holds (memory : Memory) : Nat → Bytes → Prop
  | _, [] => True
  | address, b :: bytes => memory address = .byte b ∧ memory.Holds (address + 1) bytes

/-- What a read of at most so many bytes may answer: some of the bytes at the address, and none only at an end. -/
def Answers (memory : Memory) (address count : Nat) : Except IoError Bytes → Prop
  | .ok bytes => memory.Holds address bytes ∧ bytes.length ≤ count ∧ (bytes = [] → memory address = .ends)
  | .error cause => memory address = .fails cause

/-- Every read answers what the memory holds. How many bytes it gives may depend on all that happened before. -/
def ReadBy {σ : Type} (memory : Memory) (read : (address count : Nat) → StateM σ (Except IoError Bytes)) : Prop :=
  ∀ address count state, address < Word.span → 0 < count →
    memory.Answers address count ((read address count).run state).1

/-- No byte stands at the address, and reading on there fails. -/
def Lacks (memory : Memory) (address : Nat) (cause : IoError) : Prop :=
  memory address = .fails cause ∨ memory address = .ends ∧ cause = .bare .unexpectedEnd

/-- So many bytes at an address, or the failure of the first of them that is not there. -/
inductive BytesAt (memory : Memory) (address count : Nat) : Outcome Bytes → Prop
  | whole {bytes : Bytes} (held : memory.Holds address bytes) (sized : bytes.length = count) :
    BytesAt memory address count (.ok bytes)
  | torn {bytes : Bytes} {cause : IoError} (held : memory.Holds address bytes) (short : bytes.length < count)
    (lacks : memory.Lacks (address + bytes.length) cause) :
    BytesAt memory address count (.error (readError (address + bytes.length) cause))

/-- The pointer in so many bytes at an address, or the failure of the first of them that is not there. -/
def PointerAt (memory : Memory) (size address : Nat) (told : Outcome Nat) : Prop :=
  ∃ bytes, memory.BytesAt address size bytes ∧ told = bytes.map Bytes.toNat

/-- The bytes before the first zero byte from an address on, or before the end if that comes first, or the failure of
the first byte that cannot be read. -/
inductive TextAt (memory : Memory) (address : Nat) : Outcome Bytes → Prop
  | whole {text : Bytes} (held : memory.Holds address text) (free : 0 ∉ text)
    (ended : memory (address + text.length) = .byte 0 ∨ memory (address + text.length) = .ends) :
    TextAt memory address (.ok text)
  | torn {text : Bytes} {cause : IoError} (held : memory.Holds address text) (free : 0 ∉ text)
    (failed : memory (address + text.length) = .fails cause) :
    TextAt memory address (.error (readError (address + text.length) cause))

/-- The strings at the first so many pointers of a vector, or up to its first null pointer, or the failure of the first
pointer or string that cannot be read. -/
inductive VectorAt (memory : Memory) (size : Nat) : (vector count : Nat) → Outcome (List String) → Prop
  | full {vector : Nat} : VectorAt memory size vector 0 (.ok [])
  | null {vector count : Nat} (pointed : memory.PointerAt size vector (.ok 0)) :
    VectorAt memory size vector (count + 1) (.ok [])
  | string {vector count pointer : Nat} {text : Bytes} {others : Outcome (List String)}
    (pointed : memory.PointerAt size vector (.ok pointer)) (nonnull : pointer ≠ 0)
    (spelled : memory.TextAt pointer (.ok text)) (rest : VectorAt memory size (vector + size) count others) :
    VectorAt memory size vector (count + 1) (others.map (Utf8.toString text :: ·))
  | tornVector {vector count : Nat} {fault : Fault} (torn : memory.PointerAt size vector (.error fault)) :
    VectorAt memory size vector (count + 1) (.error fault)
  | tornString {vector count pointer : Nat} {fault : Fault} (pointed : memory.PointerAt size vector (.ok pointer))
    (nonnull : pointer ≠ 0) (torn : memory.TextAt pointer (.error fault)) :
    VectorAt memory size vector (count + 1) (.error fault)

/-- Less than the longest string behind the address, and before the last address, something else stands than a byte
of a string. -/
def Stops (memory : Memory) (address : Nat) : Prop :=
  ∃ n < maxString, address + n < Word.span ∧ ∀ b, memory (address + n) = .byte b → b = 0

/-- The vector's addresses do not leave the word up to its null pointer, and its strings are not too long. -/
def Orderly (memory : Memory) (size : Nat) : (vector count : Nat) → Prop
  | _, 0 => True
  | vector, count + 1 => vector + size ≤ Word.span ∧
    ∀ pointer, memory.PointerAt size vector (.ok pointer) → pointer ≠ 0 →
      memory.Stops pointer ∧ memory.Orderly size (vector + size) count

/-! ### Bytes of a memory -/

section holds

variable {memory : Memory} {address : Nat} {bytes more : Bytes} {cause other : IoError}

theorem holds_append : memory.Holds address (bytes ++ more) ↔
    memory.Holds address bytes ∧ memory.Holds (address + bytes.length) more := by
  induction bytes generalizing address with
  | nil => simp [Holds]
  | cons b bytes ih =>
    rw [List.cons_append, Holds, Holds, ih, and_assoc, List.length_cons, Nat.add_assoc, Nat.add_comm 1]

theorem Lacks.ne_byte (lacks : memory.Lacks address cause) (b : UInt8) : memory address ≠ .byte b := by
  intro there
  rcases lacks with failed | ⟨ended, -⟩
  · exact nomatch there.symm.trans failed
  · exact nomatch there.symm.trans ended

theorem Lacks.unique (lacks : memory.Lacks address cause) (others : memory.Lacks address other) : cause = other := by
  rcases lacks with failed | ⟨ended, rfl⟩
  · rcases others with failing | ⟨ended, -⟩
    · exact Cell.fails.inj (failed.symm.trans failing)
    · exact nomatch failed.symm.trans ended
  · rcases others with failing | ⟨-, rfl⟩
    · exact nomatch ended.symm.trans failing
    · rfl

/-- Of two texts at one address, the one begins with the other, or they differ at a byte. -/
theorem Holds.prefix_or (held : memory.Holds address bytes) (others : memory.Holds address more) :
    bytes <+: more ∨ ∃ b rest, bytes = more ++ b :: rest ∧ memory (address + more.length) = .byte b := by
  induction bytes generalizing address more with
  | nil => exact .inl List.nil_prefix
  | cons b bytes ih =>
    cases more with
    | nil => exact .inr ⟨b, bytes, rfl, held.1⟩
    | cons c more =>
      obtain rfl : b = c := Cell.byte.inj (held.1.symm.trans others.1)
      rcases ih held.2 others.2 with within | ⟨d, rest, rfl, there⟩
      · exact .inl ((List.prefix_cons_inj b).mpr within)
      · refine .inr ⟨d, rest, rfl, ?_⟩
        rw [List.length_cons, Nat.add_comm more.length, ← Nat.add_assoc]
        exact there

/-- Of two texts at one address that end where no byte of a text stands, none is longer. -/
theorem Holds.eq_of_stopped (fits : UInt8 → Prop) (held : memory.Holds address bytes)
    (others : memory.Holds address more) (all : ∀ b ∈ bytes, fits b) (every : ∀ b ∈ more, fits b)
    (stopped : ∀ b, memory (address + bytes.length) = .byte b → ¬fits b)
    (stops : ∀ b, memory (address + more.length) = .byte b → ¬fits b) : bytes = more := by
  rcases held.prefix_or others with ⟨rest, rfl⟩ | ⟨b, rest, rfl, there⟩
  · cases rest with
    | nil => exact (List.append_nil bytes).symm
    | cons b rest =>
      have there := (holds_append.mp others).2.1
      exact absurd (every b (by simp)) (stopped b there)
  · exact absurd (all b (by simp)) (stops b there)

theorem Holds.length_le_of_lacks (held : memory.Holds address bytes) (others : memory.Holds address more)
    (lacks : memory.Lacks (address + bytes.length) cause) : more.length ≤ bytes.length := by
  rcases others.prefix_or held with within | ⟨b, rest, -, there⟩
  · exact within.length_le
  · exact absurd there (lacks.ne_byte b)

theorem Holds.cell {i : Nat} (held : memory.Holds address bytes) (within : i < bytes.length) :
    memory (address + i) = .byte bytes[i] := by
  induction bytes generalizing address i with
  | nil => exact absurd within (Nat.not_lt_zero i)
  | cons b bytes ih =>
    cases i with
    | zero => exact held.1
    | succ i =>
      have later := ih held.2 (Nat.lt_of_succ_lt_succ within)
      rwa [Nat.add_assoc, Nat.add_comm 1] at later

/-- A text without zero bytes does not reach beyond where no byte of a text stands. -/
theorem Holds.length_le_of_free {n : Nat} (held : memory.Holds address bytes) (free : 0 ∉ bytes)
    (stops : ∀ b, memory (address + n) = .byte b → b = 0) : bytes.length ≤ n := by
  by_contra beyond
  have zero := stops _ (held.cell (Nat.lt_of_not_le beyond))
  exact free (zero ▸ List.getElem_mem _)

/-- Two texts without zero bytes at one address are the same when both end where no byte of a text stands. -/
theorem Holds.eq_of_free (held : memory.Holds address bytes) (others : memory.Holds address more) (free : 0 ∉ bytes)
    (frees : 0 ∉ more) (stopped : ∀ b, memory (address + bytes.length) = .byte b → b = 0)
    (stops : ∀ b, memory (address + more.length) = .byte b → b = 0) : bytes = more := by
  refine Holds.eq_of_stopped (· ≠ 0) held others ?_ ?_ ?_ ?_
  · exact fun b member zero => free (zero ▸ member)
  · exact fun b member zero => frees (zero ▸ member)
  · exact fun b there nonzero => nonzero (stopped b there)
  · exact fun b there nonzero => nonzero (stops b there)

end holds

/-! ### What a memory tells at an address -/

section unique

variable {memory : Memory} {address size vector count : Nat}

theorem BytesAt.unique {told others : Outcome Bytes} (one : memory.BytesAt address count told)
    (another : memory.BytesAt address count others) : told = others := by
  cases one with
  | @whole bytes held sized =>
    cases another with
    | @whole more holds fills =>
      rcases held.prefix_or holds with within | ⟨b, rest, rfl, -⟩
      · rw [within.eq_of_length (sized.trans fills.symm)]
      · rw [List.length_append, List.length_cons] at sized
        omega
    | torn holds short lacks =>
      have longest := holds.length_le_of_lacks held lacks
      omega
  | torn held short lacks =>
    cases another with
    | whole holds fills =>
      have longest := held.length_le_of_lacks holds lacks
      omega
    | torn holds less misses =>
      obtain rfl := Holds.eq_of_stopped (fun _ => True) held holds (fun _ _ => trivial) (fun _ _ => trivial)
        (fun b there => absurd there (lacks.ne_byte b)) (fun b there => absurd there (misses.ne_byte b))
      rw [lacks.unique misses]

theorem PointerAt.unique {told others : Outcome Nat} (one : memory.PointerAt size address told)
    (another : memory.PointerAt size address others) : told = others := by
  obtain ⟨bytes, found, rfl⟩ := one
  obtain ⟨more, finds, rfl⟩ := another
  rw [found.unique finds]

/-- A text stops before a zero byte, at the end of the memory or where reading fails. -/
private theorem stopped_of_ended {address : Nat} (ended : memory address = .byte 0 ∨ memory address = .ends) :
    ∀ b, memory address = .byte b → b = 0 := by
  intro b there
  rcases ended with zero | ends
  · exact Cell.byte.inj (there.symm.trans zero)
  · exact nomatch there.symm.trans ends

private theorem stopped_of_failed {address : Nat} {cause : IoError} (failed : memory address = .fails cause) :
    ∀ b, memory address = .byte b → b = 0 :=
  fun _ there => nomatch there.symm.trans failed

theorem TextAt.unique {told others : Outcome Bytes} (one : memory.TextAt address told)
    (another : memory.TextAt address others) : told = others := by
  cases one with
  | whole held free ended =>
    cases another with
    | whole holds frees ends =>
      rw [held.eq_of_free holds free frees (stopped_of_ended ended) (stopped_of_ended ends)]
    | torn holds frees fails =>
      obtain rfl := held.eq_of_free holds free frees (stopped_of_ended ended) (stopped_of_failed fails)
      rcases ended with zero | ends
      · exact nomatch zero.symm.trans fails
      · exact nomatch ends.symm.trans fails
  | torn held free failed =>
    cases another with
    | whole holds frees ends =>
      obtain rfl := held.eq_of_free holds free frees (stopped_of_failed failed) (stopped_of_ended ends)
      rcases ends with zero | ends
      · exact nomatch zero.symm.trans failed
      · exact nomatch ends.symm.trans failed
    | torn holds frees fails =>
      obtain rfl := held.eq_of_free holds free frees (stopped_of_failed failed) (stopped_of_failed fails)
      rw [Cell.fails.inj (failed.symm.trans fails)]

/-- A memory holds one vector at an address at most. -/
theorem VectorAt.unique {told others : Outcome (List String)} (one : memory.VectorAt size vector count told)
    (another : memory.VectorAt size vector count others) : told = others := by
  induction one generalizing others with
  | full =>
    cases another
    rfl
  | null pointed =>
    cases another with
    | null => rfl
    | string points nonnull => exact absurd (Except.ok.inj (points.unique pointed)) nonnull
    | tornVector torn => exact nomatch torn.unique pointed
    | tornString points nonnull => exact absurd (Except.ok.inj (points.unique pointed)) nonnull
  | string pointed nonnull spelled rest ih =>
    cases another with
    | null points => exact absurd (Except.ok.inj (pointed.unique points)) nonnull
    | string points _ spells others =>
      obtain rfl := Except.ok.inj (pointed.unique points)
      rw [Except.ok.inj (spelled.unique spells), ih others]
    | tornVector torn => exact nomatch torn.unique pointed
    | tornString points _ torn =>
      obtain rfl := Except.ok.inj (pointed.unique points)
      exact nomatch torn.unique spelled
  | tornVector torn =>
    cases another with
    | null points => exact nomatch torn.unique points
    | string points => exact nomatch torn.unique points
    | tornVector tears => rw [Except.error.inj (torn.unique tears)]
    | tornString points => exact nomatch torn.unique points
  | tornString pointed nonnull torn =>
    cases another with
    | null points => exact absurd (Except.ok.inj (pointed.unique points)) nonnull
    | string points _ spells =>
      obtain rfl := Except.ok.inj (pointed.unique points)
      exact nomatch torn.unique spells
    | tornVector tears => exact nomatch tears.unique pointed
    | tornString points _ tears =>
      obtain rfl := Except.ok.inj (pointed.unique points)
      rw [Except.error.inj (torn.unique tears)]

end unique

end Memory

/-! ### What a reader of the memory finds -/

section reading

variable {σ : Type} {space : AddressSpace (StateM σ)} {memory : Memory} {address count : Nat} {state : σ}

/-- Bytes found before are read on with what is missing of them. -/
theorem readExact_go_bytesAt {found : Bytes} {fuel : Nat} (reads : memory.ReadBy space.read)
    (within : address + count ≤ Word.span) (held : memory.Holds address found) (sized : found.length ≤ count)
    (enough : count ≤ found.length + fuel) :
    memory.BytesAt address count ((readExact.go space address count fuel found).run state).1 := by
  induction fuel generalizing found state with
  | zero => exact .whole held (by omega)
  | succ fuel ih =>
    by_cases full : found.length = count
    · have ended : readExact.go space address count (fuel + 1) found = pure found := by
        rw [readExact.go]
        simp [full]
      rw [ended]
      exact .whole held full
    · have short : found.length < count := by omega
      have answered := reads (address + found.length) (count - found.length) state (by omega) (by omega)
      rw [run_readExact_go short (by omega)]
      cases asked : (space.read (address + found.length) (count - found.length)).run state with
      | mk answer after =>
        rw [asked] at answered
        cases answer with
        | error cause => exact .torn held short (.inl answered)
        | ok more =>
          obtain ⟨holds, bounded, ends⟩ := answered
          cases more with
          | nil => exact .torn held short (.inr ⟨ends rfl, rfl⟩)
          | cons b more =>
            rw [List.length_cons] at bounded
            refine ih (Memory.holds_append.mpr ⟨held, holds⟩) ?_ ?_
            · rw [List.length_append, List.length_cons]
              omega
            · rw [List.length_append, List.length_cons]
              omega

theorem readExact_bytesAt (state : σ) (reads : memory.ReadBy space.read) (within : address + count ≤ Word.span) :
    memory.BytesAt address count ((space.readExact address count).run state).1 :=
  readExact_go_bytesAt reads within trivial (Nat.zero_le _) (Nat.le_add_left _ _)

theorem pointer_pointerAt (state : σ) (reads : memory.ReadBy space.read)
    (within : address + space.pointerSize ≤ Word.span) :
    memory.PointerAt space.pointerSize address ((space.pointer address).run state).1 := by
  refine ⟨_, readExact_bytesAt state reads within, ?_⟩
  rw [pointer, run_bind]
  cases (space.readExact address space.pointerSize).run state with
  | mk answer after => cases answer <;> rfl

/-- The last chunk of a text has its zero byte or stands at the end of the memory. -/
private theorem textAt_of_last {text chunk : Bytes} (held : memory.Holds address text) (free : 0 ∉ text)
    (answered : memory.Answers (address + text.length) count (.ok chunk))
    (last : (Bytes.untilNul chunk).length < chunk.length ∨ chunk = []) :
    memory.TextAt address (.ok (text ++ Bytes.untilNul chunk)) := by
  obtain ⟨holds, -, ends⟩ := answered
  rcases untilNul_cases chunk with ⟨all, -⟩ | ⟨rest, split, frees⟩
  · have nothing : chunk = [] := last.resolve_left (by rw [all]; exact Nat.lt_irrefl _)
    rw [all, nothing, List.append_nil]
    exact .whole held free (.inr (ends nothing))
  · rw [split, Memory.holds_append] at holds
    refine .whole (Memory.holds_append.mpr ⟨held, holds.1⟩) (zero_notMem_append free frees) (.inl ?_)
    rw [List.length_append, ← Nat.add_assoc]
    exact holds.2.1

/-- Chunks found before are followed on to the end of the text, which is nearer than the limit. -/
theorem stringBytes_go_textAt {fuel n : Nat} (chunks : List Bytes) (reads : memory.ReadBy space.read)
    (held : memory.Holds address chunks.reverse.flatten) (free : 0 ∉ chunks.reverse.flatten)
    (bounded : n < maxString) (below : address + n < Word.span)
    (stops : ∀ b, memory (address + n) = .byte b → b = 0)
    (enough : maxString ≤ chunks.reverse.flatten.length + fuel) :
    memory.TextAt address
      ((stringBytes.go space address fuel chunks.reverse.flatten.length chunks).run state).1 := by
  have joined (chunk : Bytes) : (chunk :: chunks).reverse.flatten = chunks.reverse.flatten ++ chunk := by simp
  have reached := held.length_le_of_free free stops
  induction fuel generalizing chunks state with
  | zero => omega
  | succ fuel ih =>
    have answered := reads (address + chunks.reverse.flatten.length) chunkSize state (by omega) (by decide)
    rw [run_stringBytes_go (by omega) (by omega)]
    cases asked : (space.read (address + chunks.reverse.flatten.length) chunkSize).run state with
    | mk answer after =>
      rw [asked] at answered
      cases answer with
      | error cause => exact .torn held free answered
      | ok chunk =>
        dsimp only
        split
        next last =>
          rw [joined]
          rw [Bool.or_eq_true, decide_eq_true_eq, List.isEmpty_iff] at last
          exact textAt_of_last held free answered last
        next goes =>
          rw [Bool.or_eq_true, decide_eq_true_eq, List.isEmpty_iff, not_or] at goes
          have nonempty := List.length_pos_of_ne_nil goes.2
          have holding := Memory.holds_append.mpr ⟨held, answered.1⟩
          have frees := zero_notMem_append free (zero_notMem_of_more goes.1)
          have longer : (chunk :: chunks).reverse.flatten.length = chunks.reverse.flatten.length + chunk.length := by
            rw [joined, List.length_append]
          rw [← joined] at holding frees
          rw [← longer]
          exact ih _ holding frees (by omega) (fun more => by simp) (holding.length_le_of_free frees stops)

theorem stringBytes_textAt (state : σ) (reads : memory.ReadBy space.read) (stops : memory.Stops address) :
    memory.TextAt address ((space.stringBytes address).run state).1 := by
  obtain ⟨n, bounded, below, stopped⟩ := stops
  exact stringBytes_go_textAt [] reads trivial List.not_mem_nil bounded below stopped (Nat.le_add_left _ _)

/-- Strings found before are followed by those that the rest of the vector tells. -/
theorem strings_go_vectorAt {vector i : Nat} (found : List String) (state : σ) (reads : memory.ReadBy space.read)
    (sized : 0 < space.pointerSize)
    (orderly : memory.Orderly space.pointerSize (vector + i * space.pointerSize) count) :
    ∃ others, memory.VectorAt space.pointerSize (vector + i * space.pointerSize) count others ∧
      ((strings.go space vector count i found).run state).1 = others.map (found.reverse ++ ·) := by
  induction count generalizing i found state with
  | zero => exact ⟨_, .full, by rw [Except.map, List.append_nil]; rfl⟩
  | succ count ih =>
    obtain ⟨within, follow⟩ := orderly
    have next : vector + i * space.pointerSize + space.pointerSize = vector + (i + 1) * space.pointerSize := by
      rw [Nat.succ_mul, Nat.add_assoc]
    have pointed := pointer_pointerAt state reads within
    rw [run_strings_go (by omega)]
    cases asked : (space.pointer (vector + i * space.pointerSize)).run state with
    | mk answer after =>
      rw [asked] at pointed
      cases answer with
      | error fault => exact ⟨_, .tornVector pointed, rfl⟩
      | ok p =>
        dsimp only
        by_cases null : p = 0
        · subst null
          exact ⟨_, .null pointed, by rw [if_pos rfl, Except.map, List.append_nil]⟩
        · obtain ⟨stops, ordered⟩ := follow p pointed null
          have spelled := stringBytes_textAt after reads stops
          rw [if_neg null]
          cases read : (space.stringBytes p).run after with
          | mk text later =>
            rw [read] at spelled
            cases text with
            | error fault => exact ⟨_, .tornString pointed null spelled, rfl⟩
            | ok text =>
              rw [next] at ordered
              obtain ⟨others, told, rest⟩ := ih (Utf8.toString text :: found) later ordered
              rw [← next] at told
              refine ⟨_, .string pointed null spelled told, ?_⟩
              dsimp only
              rw [rest]
              cases others with
              | error fault => rfl
              | ok others => simp [Except.map]

theorem strings_vectorAt {vector : Nat} (state : σ) (reads : memory.ReadBy space.read) (sized : 0 < space.pointerSize)
    (orderly : memory.Orderly space.pointerSize vector count) :
    memory.VectorAt space.pointerSize vector count ((space.strings vector count).run state).1 := by
  have start : vector + 0 * space.pointerSize = vector := by rw [Nat.zero_mul, Nat.add_zero]
  obtain ⟨others, told, run⟩ := strings_go_vectorAt (i := 0) [] state reads sized (start.symm ▸ orderly)
  have same : others.map (([] : List String).reverse ++ ·) = others := by cases others <;> rfl
  rw [strings, run, same]
  rwa [start] at told

end reading

/-! ### Arguments and environment -/

/-- Two pointers, a null pointer and two strings, the last of which ends with the memory. -/
private def lines : Memory := fun address =>
  if address < 8 then .fails (.number 14)
  else match ([20, 0, 0, 0, 23, 0, 0, 0, 0, 0, 0, 0, 97, 98, 0, 99] : Bytes)[address - 8]? with
    | some b => .byte b
    | none => .ends

private def byTurns (memory : Memory) (address count : Nat) : StateM Bool (Except IoError Bytes) := fun both =>
  match memory address, memory (address + 1) with
  | .fails cause, _ => (.error cause, !both)
  | .ends, _ => (.ok [], !both)
  | .byte b, .byte c => (.ok (if both && 1 < count then [b, c] else [b]), !both)
  | .byte b, _ => (.ok [b], !both)

/-- Reads by turns answer what the memory holds. -/
private theorem byTurns_readBy (memory : Memory) : memory.ReadBy (byTurns memory) := by
  intro address count both _ positive
  unfold byTurns
  cases here : memory address with
  | fails cause => exact here
  | ends => exact ⟨trivial, Nat.zero_le _, fun _ => here⟩
  | byte b =>
    have single : memory.Answers address count (.ok [b]) := ⟨⟨here, trivial⟩, positive, nofun⟩
    cases there : memory (address + 1) with
    | fails cause => exact single
    | ends => exact single
    | byte c =>
      change memory.Answers address count (.ok (if both && 1 < count then [b, c] else [b]))
      split
      next paired =>
        rw [Bool.and_eq_true, decide_eq_true_eq] at paired
        exact ⟨⟨here, there, trivial⟩, paired.2, nofun⟩
      next => exact single

end HostProbe.AddressSpace
