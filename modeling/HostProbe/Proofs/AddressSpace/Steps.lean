import HostProbe.AddressSpace
import HostProbe.Proofs.Growth
import HostProbe.Proofs.Overflow.Words

/-! Single steps of the loops that read an address space through a reader with a memory: what one read makes of a
pointer or of a string, and one entry of a vector. -/
namespace HostProbe.AddressSpace

open Growth (run_bind)

variable {σ α : Type} {space : AddressSpace (StateM σ)} {address count fuel length : Nat} {state : σ}

theorem run_readAt : (space.readAt address count).run state =
    match (space.read address count).run state with
      | (.ok bytes, after) => (.ok bytes, after)
      | (.error cause, after) => (.error (readError address cause), after) := by
  have asked : (liftM (space.read address count) : ExceptT Fault (StateM σ) _).run state =
      (.ok ((space.read address count).run state).1, ((space.read address count).run state).2) := rfl
  rw [readAt, run_bind, asked]
  cases (space.read address count).run state with
  | mk answer after => cases answer <;> rfl

theorem run_add_of_lt {a b : Nat} (fits : a + b < Word.span) (f : Nat → ExceptT Fault (StateM σ) α) :
    ((liftM (Word.add a b) : ExceptT Fault (StateM σ) Nat) >>= f).run state = (f (a + b)).run state := by
  rw [Word.add_of_lt fits]
  rfl

theorem run_add_of_le {a b : Nat} (excess : Word.span ≤ a + b) (f : Nat → ExceptT Fault (StateM σ) α) :
    ((liftM (Word.add a b) : ExceptT Fault (StateM σ) Nat) >>= f).run state = (.error .abort, state) := by
  rw [show Word.add a b = .error .abort from Word.check_eq_abort_iff.mpr excess]
  rfl

/-- One step of an exact read, which fails at the first byte that it lacks. -/
theorem run_readExact_go {found : Bytes} (short : found.length < count) (below : address + found.length < Word.span) :
    (readExact.go space address count (fuel + 1) found).run state =
      match (space.read (address + found.length) (count - found.length)).run state with
        | (.error cause, after) => (.error (readError (address + found.length) cause), after)
        | (.ok more, after) =>
          if more.isEmpty then (.error (readError (address + found.length) (.bare .unexpectedEnd)), after)
          else (readExact.go space address count fuel (found ++ more)).run after := by
  rw [readExact.go]
  simp only [ge_iff_le, Nat.not_le.mpr short, if_false]
  rw [run_add_of_lt below, run_bind, run_readAt]
  cases (space.read (address + found.length) (count - found.length)).run state with
  | mk answer after =>
    match answer with
    | .error cause => rfl
    | .ok [] => rfl
    | .ok (b :: more) => rfl

/-- Where the address of the next read would leave the word, no read is made. -/
theorem run_readExact_go_of_le {found : Bytes} (short : found.length < count)
    (above : Word.span ≤ address + found.length) :
    (readExact.go space address count (fuel + 1) found).run state = (.error .abort, state) := by
  rw [readExact.go]
  simp only [ge_iff_le, Nat.not_le.mpr short, if_false]
  exact run_add_of_le above _

/-- One step of following a string: it ends at a zero byte or where nothing is read, and goes on otherwise. -/
theorem run_stringBytes_go {chunks : List Bytes} (short : length < maxString) (below : address + length < Word.span) :
    (stringBytes.go space address (fuel + 1) length chunks).run state =
      match (space.read (address + length) chunkSize).run state with
        | (.error cause, after) => (.error (readError (address + length) cause), after)
        | (.ok chunk, after) =>
          if (Bytes.untilNul chunk).length < chunk.length || chunk.isEmpty then
            (.ok (Bytes.untilNul chunk :: chunks).reverse.flatten, after)
          else (stringBytes.go space address fuel (length + chunk.length) (chunk :: chunks)).run after := by
  rw [stringBytes.go]
  simp only [ge_iff_le, Nat.not_le.mpr short, if_false]
  rw [run_add_of_lt below, run_bind, run_readAt]
  cases (space.read (address + length) chunkSize).run state with
  | mk answer after =>
    cases answer with
    | error cause => rfl
    | ok chunk =>
      dsimp only
      split
      · rfl
      · rfl

theorem run_stringBytes_go_of_le {chunks : List Bytes} (short : length < maxString)
    (above : Word.span ≤ address + length) :
    (stringBytes.go space address (fuel + 1) length chunks).run state = (.error .abort, state) := by
  rw [stringBytes.go]
  simp only [ge_iff_le, Nat.not_le.mpr short, if_false]
  exact run_add_of_le above _

theorem run_string : (space.string address).run state =
    match (space.stringBytes address).run state with
      | (.ok bytes, after) => (.ok (Utf8.toString bytes), after)
      | (.error fault, after) => (.error fault, after) := by
  rw [string, run_bind]
  cases (space.stringBytes address).run state with
  | mk answer after => cases answer <;> rfl

/-- One step along a vector: a null pointer ends it, and a string that cannot be read fails. -/
theorem run_strings_go {vector i : Nat} {found : List String} (below : vector + i * space.pointerSize < Word.span) :
    (strings.go space vector (fuel + 1) i found).run state =
      match (space.pointer (vector + i * space.pointerSize)).run state with
        | (.error fault, after) => (.error fault, after)
        | (.ok p, after) =>
          if p = 0 then (.ok found.reverse, after)
          else match (space.stringBytes p).run after with
            | (.error fault, later) => (.error fault, later)
            | (.ok text, later) => (strings.go space vector fuel (i + 1) (Utf8.toString text :: found)).run later := by
  rw [strings.go, run_add_of_lt below, run_bind]
  cases (space.pointer (vector + i * space.pointerSize)).run state with
  | mk answer after =>
    cases answer with
    | error fault => rfl
    | ok p =>
      dsimp only
      split
      · rfl
      · rw [run_bind, run_string]
        cases (space.stringBytes p).run after with
        | mk answer later => cases answer <;> rfl

theorem run_strings_go_of_le {vector i : Nat} {found : List String}
    (above : Word.span ≤ vector + i * space.pointerSize) :
    (strings.go space vector (fuel + 1) i found).run state = (.error .abort, state) := by
  rw [strings.go]
  exact run_add_of_le above _

/-! ### Chunks of a text -/

/-- A chunk ends a text where its first zero byte stands, or goes on with it. -/
theorem untilNul_cases (chunk : Bytes) :
    Bytes.untilNul chunk = chunk ∧ 0 ∉ chunk ∨
      ∃ rest, chunk = Bytes.untilNul chunk ++ 0 :: rest ∧ 0 ∉ Bytes.untilNul chunk := by
  induction chunk with
  | nil => exact .inl ⟨rfl, List.not_mem_nil⟩
  | cons b chunk ih =>
    by_cases zero : b = 0
    · subst zero
      exact .inr ⟨chunk, by simp [Bytes.untilNul], by simp [Bytes.untilNul]⟩
    · have kept : Bytes.untilNul (b :: chunk) = b :: Bytes.untilNul chunk :=
        List.takeWhile_cons_of_pos (by simpa using zero)
      rw [kept]
      rcases ih with ⟨all, free⟩ | ⟨rest, split, free⟩
      · exact .inl ⟨by rw [all], by simpa [Ne.symm zero] using free⟩
      · exact .inr ⟨rest, by rw [List.cons_append, ← split], by simpa [Ne.symm zero] using free⟩

theorem untilNul_of_free {chunk : Bytes} (free : 0 ∉ chunk) : Bytes.untilNul chunk = chunk := by
  rcases untilNul_cases chunk with ⟨all, -⟩ | ⟨rest, split, -⟩
  · exact all
  · rw [split] at free
    simp at free

theorem zero_notMem_untilNul (chunk : Bytes) : 0 ∉ Bytes.untilNul chunk := by
  rcases untilNul_cases chunk with ⟨all, free⟩ | ⟨rest, -, free⟩
  · rwa [all]
  · exact free

theorem zero_notMem_of_more {chunk : Bytes} (more : ¬(Bytes.untilNul chunk).length < chunk.length) : 0 ∉ chunk := by
  rcases untilNul_cases chunk with ⟨-, free⟩ | ⟨rest, split, -⟩
  · exact free
  · have whole := congrArg List.length split
    rw [List.length_append, List.length_cons] at whole
    omega

theorem zero_notMem_append {text chunk : Bytes} (free : 0 ∉ text) (frees : 0 ∉ chunk) : 0 ∉ text ++ chunk :=
  List.mem_append.not.mpr (not_or.mpr ⟨free, frees⟩)

end HostProbe.AddressSpace
