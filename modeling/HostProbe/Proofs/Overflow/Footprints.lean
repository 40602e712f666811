import HostProbe.Proofs.Footprint.Reuse
import HostProbe.Proofs.Overflow.Amounts

/-! Footprints of files whose sizes may be too large for a word. What a file states has no bound, so sums over its lines
are told exactly, and compared with what the scan comes to. -/
namespace HostProbe.Footprint

open Scanner (capacity linesOf overlong)
open Smaps (Size Added)

/-! ### Exact sums -/

def bytesIn (size : Size) (line : Bytes) : Nat :=
  match splitField line with
  | some (key, value) => if Utf8.toString key = size.key then (kilobytes? value).getD 0 * 1024 else 0
  | none => 0

def bytesOf (size : Size) (lines : List Bytes) : Nat := (lines.map (bytesIn size)).sum

def isResident (line : Bytes) : Bool :=
  match splitField line with
  | some (key, _) => Utf8.toString key = Size.rss.key
  | none => false

/-- An amount is added where the sum fits. -/
theorem plus_eq {old : Nat} (fits : old < Word.span) (number : Option Nat) :
    (match number with
      | none => .ok old
      | some n => do Word.add old (← Word.mul n 1024)) = Word.check (old + number.getD 0 * 1024) := by
  cases number with
  | none => exact (if_pos fits).symm
  | some n =>
    by_cases small : n * 1024 < Word.span
    · have amount : Word.mul n 1024 = .ok (n * 1024) := if_pos small
      simp only [amount]
      rfl
    · have amount : Word.mul n 1024 = .error .abort := if_neg small
      have excess : Word.check (old + n * 1024) = .error .abort := if_neg (by omega)
      simp only [amount, Option.getD_some, excess]
      rfl

theorem key_inj {size other : Size} : size.key = other.key ↔ size = other := by
  cases size <;> cases other <;> decide

/-- A line is added to the sums, or one of them leaves the word. -/
theorem observe_cases {t : Totals} (fits : ∀ size : Size, size.inTotals t < Word.span) (line : Bytes) :
    (∃ size, Word.span ≤ size.inTotals t + bytesIn size line) ∧ t.observe line = .error .abort ∨
      (∀ size, size.inTotals t + bytesIn size line < Word.span) ∧
        ∃ next, t.observe line = .ok next ∧ Added t next (fun size => bytesIn size line) (isResident line) := by
  unfold bytesIn isResident
  cases split : splitField line with
  | none =>
    have observed : t.observe line = .ok t := by simp only [Totals.observe, split]
    exact .inr ⟨fits, t, observed, .rfl t⟩
  | some pair =>
    obtain ⟨key, value⟩ := pair
    dsimp only
    by_cases known : ∃ size : Size, Utf8.toString key = size.key
    case neg =>
      have other (size : Size) : Utf8.toString key ≠ size.key := fun same => known ⟨size, same⟩
      simp only [if_neg (other _), other .rss, decide_false]
      exact .inr ⟨fits, t, Smaps.observe_other split other t, .rfl t⟩
    case pos =>
      obtain ⟨size, same⟩ := known
      have summed := plus_eq (fits size) (kilobytes? value)
      have sums (other : Size) (within : size.inTotals t + (kilobytes? value).getD 0 * 1024 < Word.span) :
          other.inTotals t + (if size.key = other.key then (kilobytes? value).getD 0 * 1024 else 0) < Word.span := by
        by_cases own : size = other
        · rwa [← own, if_pos rfl]
        · rw [if_neg (mt key_inj.mp own)]
          exact fits other
      generalize (kilobytes? value).getD 0 * 1024 = amount at summed sums
      rw [same]
      by_cases small : size.inTotals t + amount < Word.span
      · rw [Word.check, if_pos small] at summed
        refine .inr ⟨fun other => sums other small, ?_⟩
        simp only [Totals.observe, split, same]
        cases size
        all_goals
          refine ⟨_, congrArg (· >>= _) summed, fun other => ?_, ?_⟩
          · cases other <;> rfl
          · simp [Size.key]
      · rw [Word.check, if_neg small] at summed
        refine .inl ⟨⟨size, ?_⟩, ?_⟩
        · rw [if_pos rfl]
          exact Nat.not_lt.mp small
        · simp only [Totals.observe, split, same]
          cases size <;> exact congrArg (· >>= _) summed

/-! ### Sums over lines -/

/-- The lines that are handed out: those before the first that is too long. -/
def shortLines (lines : List Bytes) : List Bytes := lines.takeWhile fun line => line.length < capacity

theorem shortLines_cons {line : Bytes} (short : line.length < capacity) (lines : List Bytes) :
    shortLines (line :: lines) = line :: shortLines lines :=
  List.takeWhile_cons_of_pos (decide_eq_true short)

theorem shortLines_long {line : Bytes} (long : capacity ≤ line.length) (lines : List Bytes) :
    shortLines (line :: lines) = [] :=
  List.takeWhile_cons_of_neg (by simpa using long)

theorem bytesOf_cons (size : Size) (line : Bytes) (lines : List Bytes) :
    bytesOf size (line :: lines) = bytesIn size line + bytesOf size lines := by
  rw [bytesOf, List.map_cons, List.sum_cons]
  rfl

/-- How a scan of lines ends: it gives up where a sum leaves the word, it meets a line that is too long, or it comes to
the sums. -/
inductive Scans (t : Totals) (lines : List Bytes) : FootprintOutcome Totals → Prop
  | excess (size : Size) (excess : Word.span ≤ size.inTotals t + bytesOf size (shortLines lines)) :
    Scans t lines (.error .abort)
  | overlong (fits : ∀ size : Size, size.inTotals t + bytesOf size (shortLines lines) < Word.span)
    (long : shortLines lines ≠ lines) : Scans t lines (.error (.report overlong))
  | whole {last : Totals} (short : shortLines lines = lines)
    (fits : ∀ size : Size, size.inTotals t + bytesOf size lines < Word.span)
    (added : Added t last (fun size => bytesOf size lines) (lines.any isResident)) : Scans t lines (.ok last)

theorem scans_foldlM {t : Totals} (fits : ∀ size : Size, size.inTotals t < Word.span) (lines : List Bytes) :
    Scans t lines (lines.foldlM takeLine t) := by
  -- The totals so far fit at each step, and exact sums only grow.
  induction lines generalizing t with
  | nil => exact .whole rfl fits (.rfl t)
  | cons line lines ih =>
    rw [List.foldlM_cons]
    rcases Nat.lt_or_ge line.length capacity with short | long
    case inr =>
      rw [takeLine_of_long long]
      refine .overlong (fun size => ?_) ?_
      · rw [shortLines_long long]
        exact fits size
      · rw [shortLines_long long]
        exact (List.cons_ne_nil line lines).symm
    rw [takeLine_of_short short]
    rcases observe_cases fits line with ⟨⟨size, excess⟩, aborted⟩ | ⟨within, next, observed, added⟩
    · rw [aborted]
      refine .excess size (excess.trans ?_)
      rw [shortLines_cons short, bytesOf_cons]
      omega
    · have step (size : Size) (lines : List Bytes) : size.inTotals next + bytesOf size lines =
          size.inTotals t + bytesOf size (line :: lines) := by
        rw [added.sums, bytesOf_cons, Nat.add_assoc]
      have fits' : ∀ size : Size, size.inTotals next < Word.span := fun size => by
        rw [added.sums]
        exact within size
      rw [observed]
      have rest : Scans next lines (lines.foldlM takeLine next) := ih fits'
      show Scans t (line :: lines) (lines.foldlM takeLine next)
      generalize lines.foldlM takeLine next = outcome at rest
      cases rest with
      | excess size excess =>
        refine .excess size ?_
        rw [shortLines_cons short, ← step]
        exact excess
      | overlong fits long =>
        refine .overlong (fun size => ?_) ?_
        · rw [shortLines_cons short, ← step]
          exact fits size
        · rw [shortLines_cons short]
          exact fun same => long (List.cons.inj same).2
      | whole same fits more =>
        refine .whole ?_ (fun size => ?_) ?_
        · rw [shortLines_cons short, same]
        · rw [← step]
          exact fits size
        · simpa only [bytesOf_cons, List.any_cons] using added.trans more

/-- A last sum or product decides alone. -/
theorem checked_eq_abort_iff {n : Nat} {made : Nat → Footprint} :
    (match Word.check n with
      | .ok m => .ok (made m)
      | .error _ => .error .abort : FootprintOutcome Footprint) = .error .abort ↔ Word.span ≤ n := by
  by_cases fits : n < Word.span
  · have checked : Word.check n = .ok n := if_pos fits
    rw [checked]
    exact ⟨nofun, fun excess => absurd fits (Nat.not_lt.mpr excess)⟩
  · have checked : Word.check n = .error .abort := if_neg fits
    rw [checked]
    exact ⟨fun _ => Nat.not_lt.mp fits, fun _ => rfl⟩

theorem footprint_eq_abort_iff {t : Totals} :
    t.footprint = .error .abort ↔ t.sawRss = true ∧ Word.span ≤ t.privateClean + t.privateDirty := by
  unfold Totals.footprint
  cases t.sawRss with
  | false => exact ⟨nofun, nofun⟩
  | true =>
    rw [Bool.not_true, if_neg Bool.false_ne_true, and_iff_right rfl]
    exact checked_eq_abort_iff

/-! ### Files -/

def wholeLines (fault : Option IoError) (content : Bytes) : List Bytes :=
  match fault with
  | none => linesOf content
  | some _ => (content.splitOn 10).dropLast

/-- Some size adds up to too much for a word over the lines that are handed out; or all lines are, with a resident size,
and what is private is too much when clean and dirty are added. -/
def Found.Excess : Found → Prop
  | refused _ => False
  | opened content fault =>
    (∃ size, Word.span ≤ bytesOf size (shortLines (wholeLines fault content))) ∨
      fault = none ∧ shortLines (linesOf content) = linesOf content ∧ (linesOf content).any isResident ∧
        Word.span ≤ bytesOf .privateClean (linesOf content) + bytesOf .privateDirty (linesOf content)

/-- Footprints of files abort exactly where a sum leaves the word. -/
theorem Found.footprint_eq_abort_iff (found : Found) : found.footprint = .error .abort ↔ found.Excess := by
  have empty (size : Size) : size.inTotals {} = 0 := by cases size <;> rfl
  have fits : ∀ size : Size, size.inTotals {} < Word.span := fun size => by
    rw [empty]
    decide
  have bounded {sum : Size → Nat} (within : ∀ size : Size, size.inTotals {} + sum size < Word.span) :
      ¬∃ size, Word.span ≤ sum size := fun ⟨size, excess⟩ => by
    have small := within size
    rw [empty] at small
    omega
  cases found with
  | refused cause => exact ⟨nofun, False.elim⟩
  | opened content fault =>
    cases fault with
    | none =>
      have scanned := scans_foldlM fits (linesOf content)
      simp only [Found.footprint, sums, Found.Excess, wholeLines, true_and]
      generalize (linesOf content).foldlM takeLine {} = outcome at scanned
      cases scanned with
      | excess size excess =>
        rw [empty, Nat.zero_add] at excess
        exact ⟨fun _ => .inl ⟨size, excess⟩, fun _ => rfl⟩
      | overlong within long =>
        refine ⟨?_, fun excess => absurd excess (not_or.mpr ⟨bounded within, fun whole => long whole.1⟩)⟩
        rintro ⟨⟩
      | @whole last short within added =>
        have clean : last.privateClean = bytesOf .privateClean (linesOf content) :=
          (added.sums .privateClean).trans (Nat.zero_add _)
        have dirty : last.privateDirty = bytesOf .privateDirty (linesOf content) :=
          (added.sums .privateDirty).trans (Nat.zero_add _)
        have seen : last.sawRss = (linesOf content).any isResident := added.seen
        rw [short, or_iff_right (bounded within), and_iff_right rfl, ← clean, ← dirty, ← seen]
        exact Footprint.footprint_eq_abort_iff
    | some cause =>
      have scanned := scans_foldlM fits (content.splitOn 10).dropLast
      simp only [Found.footprint, sums, Found.Excess, wholeLines, reduceCtorEq, false_and, or_false]
      generalize (content.splitOn 10).dropLast.foldlM takeLine {} = outcome at scanned
      cases scanned with
      | excess size excess =>
        rw [empty, Nat.zero_add] at excess
        exact ⟨fun _ => ⟨size, excess⟩, fun _ => rfl⟩
      | overlong within long =>
        refine ⟨?_, fun excess => absurd excess (bounded within)⟩
        rintro ⟨⟩
      | whole short within added =>
        rw [short]
        refine ⟨?_, fun excess => absurd excess (bounded within)⟩
        rintro ⟨⟩

/-! ### Page counts -/

/-- The second page count of a file, in bytes, is too large for a word. -/
def PagesExcess (pageSize : Nat) (bytes : Bytes) : Prop :=
  bytes ≠ [] ∧ bytes.length ≠ Querier.pageCountsBuffer ∧ ∃ field pages,
    (bytes.splitOn 32)[1]?.bind Utf8.decode? = some field ∧ Integer.word? (Text.trim field) = some pages ∧
      Word.span ≤ pages * pageSize

/-- Page counts abort exactly where the second of them is too large in bytes. -/
theorem residentOfPageCounts_eq_abort_iff {pageSize : Nat} {bytes : Bytes} :
    Querier.residentOfPageCounts pageSize bytes = .error .abort ↔ PagesExcess pageSize bytes := by
  unfold Querier.residentOfPageCounts PagesExcess
  extract_lets invalid
  split
  case isTrue odd =>
    rw [Bool.or_eq_true, List.isEmpty_iff, decide_eq_true_eq] at odd
    exact ⟨nofun, fun ⟨nonempty, other, _⟩ => (odd.elim nonempty other).elim⟩
  case isFalse usual =>
    rw [Bool.or_eq_true, List.isEmpty_iff, decide_eq_true_eq, not_or] at usual
    rw [and_iff_right usual.1, and_iff_right usual.2]
    cases (bytes.splitOn 32)[1]?.bind Utf8.decode? with
    | none => exact ⟨nofun, fun ⟨_, _, absent, _⟩ => nomatch absent⟩
    | some field =>
      simp only [Option.bind_some, Option.some.injEq, exists_and_left, exists_eq_left']
      cases Integer.word? (Text.trim field) with
      | none => exact ⟨nofun, fun ⟨_, absent, _⟩ => nomatch absent⟩
      | some pages =>
        simp only [Option.some.injEq, exists_eq_left']
        exact checked_eq_abort_iff

end HostProbe.Footprint
