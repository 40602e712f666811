import HostProbe.Proofs.AddressSpace.Steps
import HostProbe.Proofs.Fields

/-! How far the vectors and strings of another process lead its reader. The reader answers as it likes, with what it
remembers of all reads before, so nothing here depends on what the process holds. -/
namespace HostProbe.AddressSpace

open Growth (run_bind)

variable {σ α β : Type}

abbrev Reader (σ : Type) := (address count : Nat) → StateM σ (Except IoError Bytes)

namespace Reader

/-- No read gives more bytes than it was asked for. -/
def Bounded (read : Reader σ) : Prop :=
  ∀ address count state bytes, ((read address count).run state).1 = .ok bytes → bytes.length ≤ count

/-- Some read gives the byte at the last address of all. -/
def Topped (read : Reader σ) : Prop :=
  ∃ address count state bytes, ((read address count).run state).1 = .ok bytes ∧ bytes ≠ [] ∧
    Word.span ≤ address + bytes.length

/-- Chunks without a zero byte have a multiple of so many bytes. -/
def Strides (unit : Nat) (read : Reader σ) : Prop :=
  ∀ address state bytes, ((read address chunkSize).run state).1 = .ok bytes → 0 ∉ bytes → unit ∣ bytes.length

/-- What is found is as it should be, a failure is reported, and only a byte at the last address makes it give up. -/
inductive Meets (read : Reader σ) (fits : α → Prop) : Outcome α → Prop
  | found {a : α} (fitting : fits a) : Meets read fits (.ok a)
  | reported (error : Error) : Meets read fits (.error (.report error))
  | topped (reached : read.Topped) : Meets read fits (.error .abort)

variable {read : Reader σ} {fits kept : α → Prop}

theorem Meets.mono {outcome : Outcome α} (meets : read.Meets fits outcome) (within : ∀ a, fits a → kept a) :
    read.Meets kept outcome := by
  cases meets with
  | found fitting => exact .found (within _ fitting)
  | reported error => exact .reported error
  | topped reached => exact .topped reached

/-- Readings that are as they should be are so one after the other. -/
theorem Meets.bind {x : ExceptT Fault (StateM σ) α} {f : α → ExceptT Fault (StateM σ) β} {right : β → Prop} {state : σ}
    (first : read.Meets fits (x.run state).1) (later : ∀ a after, fits a → read.Meets right ((f a).run after).1) :
    read.Meets right ((x >>= f).run state).1 := by
  rw [run_bind]
  cases ran : x.run state with
  | mk outcome after =>
    rw [ran] at first
    cases first with
    | found fitting => exact later _ after fitting
    | reported error => exact .reported error
    | topped reached => exact .topped reached

end Reader

/-- A text as it is cut at the limit: it may pass it by what the last chunk has beyond one unit. -/
def Cut (unit : Nat) (text : Bytes) : Prop := 0 ∉ text ∧ text.length + unit ≤ maxString + chunkSize

/-- Before the limit there is room for one more unit, and behind it for what the last chunk has beyond it. -/
theorem Cut.append {unit : Nat} {text chunk : Bytes} (cut : Cut unit text) (divides : unit ∣ maxString)
    (even : unit ∣ text.length) (short : text.length < maxString) (few : chunk.length ≤ chunkSize) (free : 0 ∉ chunk) :
    Cut unit (text ++ chunk) := by
  have room : unit ≤ maxString - text.length := Nat.le_of_dvd (by omega) (Nat.dvd_sub divides even)
  refine ⟨zero_notMem_append cut.1 free, ?_⟩
  rw [List.length_append]
  omega

section loops

variable {space : AddressSpace (StateM σ)} {address count fuel unit : Nat} {state : σ}

/-- An answer that is not empty moves the next address on, and to the end of the word only from the last byte. -/
private theorem topped_of_answer {bytes : Bytes} {after : σ}
    (answered : (space.read address count).run state = (.ok bytes, after)) (nonempty : bytes ≠ [])
    (above : Word.span ≤ address + bytes.length) : Reader.Topped space.read :=
  ⟨address, count, state, bytes, by rw [answered], nonempty, above⟩

/-- An exact read gives all bytes of the count, the last address among them only if it can be read. -/
theorem readExact_go_meets {found : Bytes} (bounded : Reader.Bounded space.read) (sized : found.length ≤ count)
    (reached : Word.span ≤ address + found.length → Reader.Topped space.read)
    (enough : count ≤ found.length + fuel) :
    Reader.Meets space.read
      (fun bytes => bytes.length = count ∧ (Word.span ≤ address + count → Reader.Topped space.read))
      ((readExact.go space address count fuel found).run state).1 := by
  induction fuel generalizing found state with
  | zero =>
    have full : found.length = count := by omega
    exact .found ⟨full, full ▸ reached⟩
  | succ fuel ih =>
    rcases Nat.eq_or_lt_of_le sized with full | short
    · have ended : readExact.go space address count (fuel + 1) found = pure found := by
        rw [readExact.go]
        simp [full]
      rw [ended]
      exact .found ⟨full, full ▸ reached⟩
    · rcases Nat.lt_or_ge (address + found.length) Word.span with below | above
      · rw [run_readExact_go short below]
        cases asked : (space.read (address + found.length) (count - found.length)).run state with
        | mk answer after =>
          cases answer with
          | error cause => exact .reported _
          | ok more =>
            have most := bounded _ _ state more (by rw [asked])
            dsimp only
            split
            next => exact .reported _
            next nonempty =>
              rw [List.isEmpty_iff] at nonempty
              have longer := List.length_pos_of_ne_nil nonempty
              have joined : (found ++ more).length = found.length + more.length := List.length_append
              refine ih (by omega) (fun above => ?_) (by omega)
              exact topped_of_answer asked nonempty (by omega)
      · rw [run_readExact_go_of_le short above]
        exact .topped (reached above)

theorem pointer_meets (state : σ) (bounded : Reader.Bounded space.read) (small : address < Word.span) :
    Reader.Meets space.read
      (fun p => p < 256 ^ space.pointerSize ∧
        (Word.span ≤ address + space.pointerSize → Reader.Topped space.read))
      ((space.pointer address).run state).1 := by
  refine Reader.Meets.bind (readExact_go_meets bounded (Nat.zero_le _) ?_ (Nat.le_add_left _ _)) ?_
  · exact fun above => absurd small (Nat.not_lt.mpr above)
  · rintro bytes after ⟨sized, next⟩
    exact .found ⟨sized ▸ Bytes.toNat_lt bytes, next⟩

/-- A text is cut at the limit however the reads divide it, as long as its chunks are multiples of one unit. -/
theorem stringBytes_go_meets (chunks : List Bytes) (bounded : Reader.Bounded space.read) (divides : unit ∣ maxString)
    (strides : Reader.Strides unit space.read) (even : unit ∣ chunks.reverse.flatten.length)
    (cut : Cut unit chunks.reverse.flatten)
    (reached : Word.span ≤ address + chunks.reverse.flatten.length → Reader.Topped space.read) :
    Reader.Meets space.read (Cut unit)
      ((stringBytes.go space address fuel chunks.reverse.flatten.length chunks).run state).1 := by
  have joined (chunk : Bytes) : (chunk :: chunks).reverse.flatten = chunks.reverse.flatten ++ chunk := by simp
  induction fuel generalizing chunks state with
  | zero => exact .found cut
  | succ fuel ih =>
    rcases Nat.lt_or_ge chunks.reverse.flatten.length maxString with short | long
    · rcases Nat.lt_or_ge (address + chunks.reverse.flatten.length) Word.span with below | above
      · rw [run_stringBytes_go short below]
        cases asked : (space.read (address + chunks.reverse.flatten.length) chunkSize).run state with
        | mk answer after =>
          cases answer with
          | error cause => exact .reported _
          | ok chunk =>
            have few := bounded _ _ state chunk (by rw [asked])
            dsimp only
            split
            next =>
              have fewer : (Bytes.untilNul chunk).length ≤ chunk.length := (List.takeWhile_prefix _).length_le
              rw [joined]
              exact .found (cut.append divides even short (fewer.trans few) (zero_notMem_untilNul chunk))
            next goes =>
              rw [Bool.or_eq_true, decide_eq_true_eq, List.isEmpty_iff, not_or] at goes
              have free := zero_notMem_of_more goes.1
              have whole : unit ∣ chunk.length := strides _ state chunk (by rw [asked]) free
              have longer : (chunk :: chunks).reverse.flatten.length =
                  chunks.reverse.flatten.length + chunk.length := by
                rw [joined, List.length_append]
              rw [← longer]
              refine ih _ ?_ ?_ (fun above => ?_) (fun more => by simp)
              · exact longer ▸ Nat.dvd_add even whole
              · exact joined chunk ▸ cut.append divides even short few free
              · exact topped_of_answer asked goes.2 (by omega)
      · rw [run_stringBytes_go_of_le short above]
        exact .topped (reached above)
    · have ended : stringBytes.go space address (fuel + 1) chunks.reverse.flatten.length chunks =
          pure chunks.reverse.flatten := by
        rw [stringBytes.go]
        exact if_pos long
      rw [ended]
      exact .found cut

/-- Strings are read as texts that are cut at the limit. -/
theorem string_meets (state : σ) (bounded : Reader.Bounded space.read) (divides : unit ∣ maxString)
    (strides : Reader.Strides unit space.read) (small : address < Word.span) :
    Reader.Meets space.read (fun string => ∃ text, string = Utf8.toString text ∧ Cut unit text)
      ((space.string address).run state).1 := by
  have least : unit ≤ maxString := Nat.le_of_dvd (by decide) divides
  have cut : Cut unit ([] : List Bytes).reverse.flatten :=
    ⟨List.not_mem_nil, Nat.le_trans (by simpa using least) (Nat.le_add_right _ _)⟩
  refine Reader.Meets.bind (stringBytes_go_meets [] bounded divides strides (Nat.dvd_zero _) cut ?_) ?_
  · exact fun above => absurd small (Nat.not_lt.mpr above)
  · exact fun text after cut => .found ⟨text, rfl, cut⟩

/-- Strings found before are followed by others, each cut at the limit. -/
theorem strings_go_meets {vector i : Nat} (found : List String) (state : σ) (bounded : Reader.Bounded space.read)
    (divides : unit ∣ maxString) (strides : Reader.Strides unit space.read)
    (wide : 256 ^ space.pointerSize ≤ Word.span)
    (reached : Word.span ≤ vector + i * space.pointerSize → Reader.Topped space.read) :
    Reader.Meets space.read
      (fun all => ∃ texts : List Bytes, all = found.reverse ++ texts.map Utf8.toString ∧ texts.length ≤ count ∧
        ∀ text ∈ texts, Cut unit text)
      ((strings.go space vector count i found).run state).1 := by
  induction count generalizing i found state with
  | zero => exact .found ⟨[], (List.append_nil _).symm, Nat.zero_le _, nofun⟩
  | succ count ih =>
    rcases Nat.lt_or_ge (vector + i * space.pointerSize) Word.span with below | above
    · rw [strings.go, run_add_of_lt below]
      refine Reader.Meets.bind (pointer_meets state bounded below) ?_
      rintro p after ⟨small, next⟩
      by_cases null : p = 0
      · rw [if_pos null]
        exact .found ⟨[], (List.append_nil _).symm, Nat.zero_le _, nofun⟩
      · rw [if_neg null]
        refine Reader.Meets.bind (string_meets after bounded divides strides (Nat.lt_of_lt_of_le small wide)) ?_
        rintro _ later ⟨text, rfl, cut⟩
        have onward : Word.span ≤ vector + (i + 1) * space.pointerSize → Reader.Topped space.read := by
          rw [Nat.succ_mul, ← Nat.add_assoc]
          exact next
        refine (ih (Utf8.toString text :: found) later onward).mono ?_
        rintro all ⟨texts, rfl, few, cuts⟩
        exact ⟨text :: texts, by simp, Nat.succ_le_succ few, List.forall_mem_cons.mpr ⟨cut, cuts⟩⟩
    · rw [run_strings_go_of_le above]
      exact .topped (reached above)

end loops

/-! ### Arguments and environment -/

/-- At most so many strings, each of them cut at the limit. -/
def Extent (unit most : Nat) (found : List String) : Prop :=
  ∃ texts : List Bytes, found = texts.map Utf8.toString ∧ texts.length ≤ most ∧ ∀ text ∈ texts, Cut unit text

/-- Whatever the reader answers, arguments and environment are strings cut at the limit or an error is reported, unless
the reader gives the byte at the last address. -/
theorem vectors_bounded {read : Reader σ} (bounded : read.Bounded) {unit : Nat} (divides : unit ∣ maxString)
    (strides : read.Strides unit) (size : Nat) {vector : Nat} (small : vector < Word.span) (state : σ) :
    (∀ count, read.Meets (Extent unit count) (((new read size).argv vector count).run state).1) ∧
    read.Meets (Extent unit maxEntries) (((new read size).envp vector).run state).1 := by
  have wide : 256 ^ (new read size).pointerSize ≤ Word.span := by
    change 256 ^ (if size = 4 then 4 else 8) ≤ Word.span
    split <;> decide
  have start : Word.span ≤ vector + 0 * (new read size).pointerSize → read.Topped := by
    rw [Nat.zero_mul, Nat.add_zero]
    exact fun above => absurd small (Nat.not_lt.mpr above)
  have found (count : Nat) : read.Meets (Extent unit count) (((new read size).strings vector count).run state).1 :=
    strings_go_meets [] state bounded divides strides wide start
  exact ⟨found, found maxEntries⟩

/-- Ones without end in the lower half of all addresses, at most so many of them at once. -/
private def ones (most : Nat) : Reader Unit := fun address count =>
  pure (if address < 1 <<< 63 then .ok (List.replicate (min count most) 1) else .error (.number 14))

private theorem ones_eq_ok {most address count : Nat} {state : Unit} {bytes : Bytes}
    (answered : ((ones most address count).run state).1 = .ok bytes) :
    address < 1 <<< 63 ∧ bytes = List.replicate (min count most) 1 := by
  change (if address < 1 <<< 63 then (.ok (List.replicate (min count most) 1) : Except IoError Bytes)
    else .error (.number 14)) = .ok bytes at answered
  split at answered
  next low => exact ⟨low, (Except.ok.inj answered).symm⟩
  next => exact nomatch answered

/-- Of text without end only as much is read as the limit lets through. -/
theorem vectors_bounded_endlessText :
    (((new (ones 256) 8).argv 4096 3).run ()).1 ≠ .error .abort ∧
    ∀ found, (((new (ones 256) 8).envp 4096).run ()).1 = .ok found →
      ∃ texts : List Bytes, found = texts.map Utf8.toString ∧ ∀ text ∈ texts, text.length ≤ maxString := by
  have bounded : (ones 256).Bounded := by
    intro address count state bytes answered
    rw [(ones_eq_ok answered).2, List.length_replicate]
    exact Nat.min_le_left _ _
  have strides : (ones 256).Strides 256 := by
    intro address state bytes answered _
    rw [(ones_eq_ok answered).2, List.length_replicate]
    decide
  have divides : 256 ∣ maxString := Nat.dvd_of_mod_eq_zero (by decide)
  have topless : ¬(ones 256).Topped := by
    rintro ⟨address, count, state, bytes, answered, -, above⟩
    obtain ⟨low, rfl⟩ := ones_eq_ok answered
    rw [List.length_replicate] at above
    have span : Word.span = 2 * 1 <<< 63 := rfl
    omega
  obtain ⟨arguments, environment⟩ := vectors_bounded bounded divides strides 8 (by decide : 4096 < Word.span) ()
  constructor
  · intro aborted
    have meets := arguments 3
    rw [aborted] at meets
    cases meets with
    | topped reached => exact topless reached
  · intro found told
    rw [told] at environment
    cases environment with
    | found extent =>
      obtain ⟨texts, spelled, -, cuts⟩ := extent
      exact ⟨texts, spelled, fun text member => Nat.le_of_add_le_add_right (cuts text member).2⟩

private def summit : Reader Unit := fun _ _ => pure (.ok [255])

private def slope : Reader Unit := fun address _ => pure (.ok (if address < 1 <<< 63 then [] else [1]))

/-- A text without end is cut after the first chunk that reaches the limit. -/
private theorem stringBytes_ones {most address pieces : Nat} (positive : 0 < most) (chunked : most ≤ chunkSize)
    (long : maxString ≤ pieces * most) (last : (pieces - 1) * most < maxString)
    (low : address + maxString ≤ 1 <<< 63) :
    (((new (ones most) 8).stringBytes address).run ()).1 = .ok (List.replicate (pieces * most) 1) := by
  have free : Bytes.untilNul (List.replicate most 1) = List.replicate most 1 :=
    untilNul_of_free fun member => nomatch List.eq_of_mem_replicate member
  -- the chunks that are left follow those that are there
  have go (left : Nat) : ∀ done fuel, done + left = pieces → left ≤ fuel →
      ((stringBytes.go (new (ones most) 8) address fuel (done * most)
        (List.replicate done (List.replicate most 1))).run ()).1 = .ok (List.replicate (pieces * most) 1) := by
    induction left with
    | zero =>
      rintro done fuel rfl -
      have ended : stringBytes.go (new (ones most) 8) address fuel (done * most)
          (List.replicate done (List.replicate most 1)) = pure (List.replicate (done * most) 1) := by
        cases fuel with
        | zero => rw [stringBytes.go, List.reverse_replicate, List.flatten_replicate_replicate]
        | succ fuel =>
          rw [stringBytes.go, List.reverse_replicate, List.flatten_replicate_replicate]
          exact if_pos long
      rw [ended]
      rfl
    | succ left ih =>
      intro done fuel all enough
      obtain ⟨fuel, rfl⟩ := Nat.exists_eq_add_one.mpr (Nat.lt_of_lt_of_le (Nat.succ_pos left) enough)
      have short : done * most < maxString :=
        Nat.lt_of_le_of_lt (Nat.mul_le_mul_right most (by omega)) last
      have below : address + done * most < 1 <<< 63 := by omega
      have span : Word.span = 2 * 1 <<< 63 := rfl
      have asked : ((new (ones most) 8).read (address + done * most) chunkSize).run () =
          (.ok (List.replicate most 1), ()) := by
        change ((if address + done * most < 1 <<< 63 then (.ok (List.replicate (min chunkSize most) 1) :
          Except IoError Bytes) else .error (.number 14)), ()) = _
        rw [if_pos below, Nat.min_eq_right chunked]
      have next := ih (done + 1) fuel (by omega) (by omega)
      rw [Nat.succ_mul, List.replicate_succ] at next
      have goes : ¬(decide ((List.replicate most (1 : UInt8)).length < (List.replicate most (1 : UInt8)).length) ||
          (List.replicate most (1 : UInt8)).isEmpty) = true := by
        simp [Nat.ne_of_gt positive]
      rw [run_stringBytes_go short (by omega), asked]
      dsimp only
      rw [free, if_neg goes, List.length_replicate]
      exact next
  have few : pieces ≤ maxString := by
    have most := Nat.le_mul_of_pos_right (pieces - 1) positive
    omega
  have whole := go pieces 0 maxString (Nat.zero_add _) few
  rw [Nat.zero_mul] at whole
  exact whole

/-- A string at the last address aborts, and so does a vector; and a string may pass its limit by a last chunk. -/
theorem vectors_overrun :
    (((new summit 8).argv 0 1).run ()).1 = .error .abort ∧
    (((new slope 8).argv (Word.span - 8) 2).run ()).1 = .error .abort ∧
    ∃ text, (((new (ones 255) 8).argv 4096 1).run ()).1 = .ok [Utf8.toString text] ∧ text.length = 131325 := by
  refine ⟨rfl, rfl, List.replicate (515 * 255) 1, ?_, List.length_replicate⟩
  have spelled : (((new (ones 255) 8).stringBytes 0x0101010101010101).run ()).1 =
      .ok (List.replicate (515 * 255) 1) :=
    stringBytes_ones (by decide) (by decide) (by decide) (by decide) (by decide)
  have pointed : ((new (ones 255) 8).pointer (4096 + 0 * (new (ones 255) 8).pointerSize)).run () =
      (.ok 0x0101010101010101, ()) := rfl
  rw [argv, strings, run_strings_go (by decide), pointed]
  dsimp only
  rw [if_neg (by decide)]
  cases ran : ((new (ones 255) 8).stringBytes 0x0101010101010101).run () with
  | mk answer after =>
    rw [ran] at spelled
    cases spelled
    rfl

end HostProbe.AddressSpace
