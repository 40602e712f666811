import HostProbe.Affinity
import HostProbe.Windows.Processes
import Mathlib.Data.Finset.Sort

/-! Masks of processors as sets of them. A mask tells its processors in ascending order, and the masks made of a list
tell the list again, sorted and without repetitions. -/
namespace HostProbe

namespace Affinity

def sorted (cpus : List Nat) : List Nat := cpus.toFinset.sort

/-- A list in ascending order is told by its members. -/
theorem eq_sorted_of_mem_iff {cpus told : List Nat} (ascending : told.Pairwise (· < ·))
    (members : ∀ cpu, cpu ∈ told ↔ cpu ∈ cpus) : told = sorted cpus := by
  refine ascending.sortedLT.eq_of_mem_iff cpus.toFinset.sortedLT_sort fun cpu => ?_
  rw [members, sorted, Finset.mem_sort, List.mem_toFinset]

/-! ### Masks of words -/

def Has (mask : List Nat) (cpu : Nat) : Prop := (mask.getD (cpu / 64) 0).testBit (cpu % 64) = true

instance (mask : List Nat) (cpu : Nat) : Decidable (Has mask cpu) := inferInstanceAs (Decidable (_ = true))

section words

variable {mask cpus : List Nat} {cpu other : Nat}

private theorem mem_word {word i : Nat} :
    cpu ∈ ((List.range 64).filterMap fun bit => if word.testBit bit then some (i * 64 + bit) else none) ↔
      cpu / 64 = i ∧ word.testBit (cpu % 64) = true := by
  simp only [List.mem_filterMap, List.mem_range, Option.ite_none_right_eq_some, Option.some.injEq]
  constructor
  · rintro ⟨bit, small, set, rfl⟩
    have place : (i * 64 + bit) / 64 = i := by omega
    have rest : (i * 64 + bit) % 64 = bit := by omega
    rw [rest]
    exact ⟨place, set⟩
  · rintro ⟨rfl, set⟩
    exact ⟨cpu % 64, Nat.mod_lt _ (by decide), set, Nat.div_add_mod' cpu 64⟩

/-- Exactly the processors whose bits are set are told. -/
theorem mem_cpusOfMask : cpu ∈ cpusOfMask mask ↔ Has mask cpu := by
  simp only [cpusOfMask, List.mem_flatMap, Prod.exists, List.mk_mem_zipIdx_iff_getElem?, mem_word]
  rw [Has, List.getD_eq_getElem?_getD]
  constructor
  · rintro ⟨word, i, found, rfl, set⟩
    rwa [found]
  · intro has
    cases found : mask[cpu / 64]? with
    | none =>
      rw [found] at has
      simp at has
    | some word =>
      rw [found] at has
      exact ⟨word, cpu / 64, found, rfl, has⟩

theorem pairwise_cpusOfMask (mask : List Nat) : (cpusOfMask mask).Pairwise (· < ·) := by
  have indices : mask.zipIdx.Pairwise fun a b => a.2 < b.2 := by
    apply List.pairwise_map.mp
    rw [List.zipIdx_map_snd]
    exact List.pairwise_lt_range'
  rw [cpusOfMask, List.pairwise_flatMap]
  constructor
  · rintro ⟨word, i⟩ -
    rw [List.pairwise_filterMap]
    refine List.pairwise_lt_range.imp fun {bit later} less cpu first other second => ?_
    rw [Option.ite_none_right_eq_some, Option.some.injEq] at first second
    omega
  · refine indices.imp fun {a b} less cpu member other others => ?_
    rw [mem_word] at member others
    omega

theorem length_setCpu (mask : List Nat) (cpu : Nat) : (setCpu mask cpu).length = mask.length := List.length_modify ..

theorem has_setCpu (within : cpu / 64 < mask.length) : Has (setCpu mask cpu) other ↔ Has mask other ∨ other = cpu := by
  rw [Has, Has, setCpu, List.getD_eq_getElem?_getD, List.getD_eq_getElem?_getD, List.getElem?_modify]
  by_cases same : cpu / 64 = other / 64
  · have bit : (1 <<< (cpu % 64)).testBit (other % 64) = true ↔ other = cpu := by
      rw [Nat.one_shiftLeft, Nat.testBit_two_pow, decide_eq_true_eq]
      omega
    have found : mask[other / 64]? = some mask[other / 64] := List.getElem?_eq_getElem (same ▸ within)
    rw [found]
    simp only [same, if_true, Option.map_eq_map, Option.map_some, Option.getD_some, Nat.testBit_or, Bool.or_eq_true,
      bit]
  · have apart : other ≠ cpu := fun equal => same (congrArg (· / 64) equal.symm)
    simp [same, apart]

theorem length_foldl_setCpu (cpus mask : List Nat) : (cpus.foldl setCpu mask).length = mask.length := by
  induction cpus generalizing mask with
  | nil => rfl
  | cons cpu cpus ih => rw [List.foldl_cons, ih, length_setCpu]

theorem has_foldl_setCpu (within : ∀ cpu ∈ cpus, cpu / 64 < mask.length) :
    Has (cpus.foldl setCpu mask) other ↔ Has mask other ∨ other ∈ cpus := by
  induction cpus generalizing mask with
  | nil => simp
  | cons cpu cpus ih =>
    obtain ⟨first, others⟩ := List.forall_mem_cons.mp within
    rw [List.foldl_cons, ih (by rwa [length_setCpu]), has_setCpu first, List.mem_cons, or_assoc]

/-- Bits are set within the words. -/
theorem lt_span_of_mem_foldl_setCpu (small : ∀ word ∈ mask, word < Word.span) :
    ∀ word ∈ cpus.foldl setCpu mask, word < Word.span := by
  induction cpus generalizing mask with
  | nil => exact small
  | cons cpu cpus ih =>
    refine ih fun word member => ?_
    rw [setCpu, List.mem_iff_getElem?] at member
    obtain ⟨i, found⟩ := member
    rw [List.getElem?_modify] at found
    obtain ⟨before, there, rfl⟩ := Option.map_eq_some_iff.mp found
    have fits := small before (List.mem_of_getElem? there)
    split
    next =>
      refine Nat.or_lt_two_pow (n := 64) fits ?_
      rw [Nat.one_shiftLeft]
      exact Nat.pow_lt_pow_right (by decide) (Nat.mod_lt _ (by decide))
    next => exact fits

/-- Words that the processors of a list need, or so many that are there anyway. -/
theorem foldl_max_le_iff {least most : Nat} : cpus.foldl (fun n cpu => max n (cpu / 64 + 1)) least ≤ most ↔
    least ≤ most ∧ ∀ cpu ∈ cpus, cpu / 64 < most := by
  induction cpus generalizing least with
  | nil => simp
  | cons cpu cpus ih => rw [List.foldl_cons, ih, Nat.max_le, List.forall_mem_cons, and_assoc]; rfl

theorem length_maskOfCpus_le_iff {most : Nat} : (maskOfCpus cpus).length ≤ most ↔
    initialWords ≤ most ∧ ∀ cpu ∈ cpus, cpu / 64 < most := by
  rw [maskOfCpus, length_foldl_setCpu, List.length_replicate, Nat.max_le, foldl_max_le_iff]
  constructor
  · rintro ⟨⟨-, few⟩, least⟩
    exact ⟨least, few⟩
  · rintro ⟨least, few⟩
    exact ⟨⟨Nat.zero_le _, few⟩, least⟩

/-- A mask is at least so wide, and wide enough for each of its processors. -/
theorem width_maskOfCpus (cpus : List Nat) :
    initialWords ≤ (maskOfCpus cpus).length ∧ ∀ cpu ∈ cpus, cpu / 64 < (maskOfCpus cpus).length :=
  length_maskOfCpus_le_iff.mp (Nat.le_refl _)

/-- A mask carries the processors that it was made of, and no others. -/
theorem has_maskOfCpus : Has (maskOfCpus cpus) cpu ↔ cpu ∈ cpus := by
  have wide := (width_maskOfCpus cpus).2
  have none (length : Nat) : ¬Has (List.replicate length 0) cpu := by
    rw [Has, List.getD_eq_getElem?_getD, List.getElem?_replicate]
    split
    · simp
    · simp
  rw [maskOfCpus, length_foldl_setCpu] at wide
  rw [maskOfCpus, has_foldl_setCpu wide]
  exact or_iff_right (none _)

/-- A mask tells the processors of a list, in words of 64 bits of which none is missing. -/
structure Carries (mask cpus : List Nat) : Prop where
  decoded : cpusOfMask mask = sorted cpus
  wide : initialWords ≤ mask.length ∧ ∀ cpu ∈ cpus, cpu / 64 < mask.length
  small : ∀ word ∈ mask, word < Word.span

theorem carries_maskOfCpus (cpus : List Nat) : Carries (maskOfCpus cpus) cpus where
  decoded := eq_sorted_of_mem_iff (pairwise_cpusOfMask _) fun _ => mem_cpusOfMask.trans has_maskOfCpus
  wide := width_maskOfCpus cpus
  small := by
    refine lt_span_of_mem_foldl_setCpu fun word member => ?_
    rw [List.eq_of_mem_replicate member]
    decide

/-- Zero words behind a mask add nothing to it. -/
theorem has_append_replicate {count : Nat} : Has (mask ++ List.replicate count 0) cpu ↔ Has mask cpu := by
  rw [Has, Has, List.getD_eq_getElem?_getD, List.getD_eq_getElem?_getD, List.getElem?_append]
  split
  next => rfl
  next beyond =>
    rw [List.getElem?_replicate, List.getElem?_eq_none (Nat.le_of_not_lt beyond)]
    split
    · rfl
    · rfl

end words

end Affinity

/-! ### Masks of one word -/

namespace Windows

open Affinity (sorted eq_sorted_of_mem_iff)

variable {cpus : List Nat} {mask system cpu : Nat}

theorem mem_cpusOfMask : cpu ∈ cpusOfMask mask ↔ cpu < 64 ∧ mask.testBit cpu = true := by
  rw [cpusOfMask, List.mem_filter, List.mem_range]

theorem pairwise_cpusOfMask (mask : Nat) : (cpusOfMask mask).Pairwise (· < ·) := List.pairwise_lt_range.filter _

theorem testBit_foldl_or : (cpus.foldl (fun mask cpu => mask ||| 1 <<< cpu) mask).testBit cpu = true ↔
    mask.testBit cpu = true ∨ cpu ∈ cpus := by
  induction cpus generalizing mask with
  | nil => simp
  | cons first cpus ih =>
    rw [List.foldl_cons, ih, Nat.testBit_or, Nat.one_shiftLeft, Nat.testBit_two_pow, Bool.or_eq_true,
      decide_eq_true_eq, List.mem_cons, or_assoc, eq_comm (a := first)]

theorem foldl_or_lt_span (small : ∀ cpu ∈ cpus, cpu < 64) (fits : mask < Word.span) :
    cpus.foldl (fun mask cpu => mask ||| 1 <<< cpu) mask < Word.span := by
  induction cpus generalizing mask with
  | nil => exact fits
  | cons first cpus ih =>
    obtain ⟨low, others⟩ := List.forall_mem_cons.mp small
    refine ih others (Nat.or_lt_two_pow (n := 64) fits ?_)
    rw [Nat.one_shiftLeft]
    exact Nat.pow_lt_pow_right (by decide) low

/-- Processors are put into a mask when there are some and the system has them all. -/
def Allowed (system : Nat) (cpus : List Nat) : Prop := cpus ≠ [] ∧ ∀ cpu ∈ cpus, cpu ∈ cpusOfMask system

/-- Processors that the system has fit one word, and come back from it in ascending order. -/
theorem maskOfCpus?_of_allowed (allowed : Allowed system cpus) :
    ∃ mask, maskOfCpus? cpus system = some mask ∧ cpusOfMask mask = sorted cpus ∧ mask < Word.span := by
  have small : ∀ cpu ∈ cpus, cpu < 64 := fun cpu member => (mem_cpusOfMask.mp (allowed.2 cpu member)).1
  have taken : (!cpus.isEmpty && cpus.all fun cpu => cpu < 64 && system.testBit cpu) = true := by
    simpa [mem_cpusOfMask, Allowed] using allowed
  refine ⟨_, if_pos taken, ?_, foldl_or_lt_span small (by decide)⟩
  refine eq_sorted_of_mem_iff (pairwise_cpusOfMask _) fun cpu => ?_
  rw [mem_cpusOfMask, testBit_foldl_or, Nat.zero_testBit]
  constructor
  · rintro ⟨-, unset | member⟩
    · exact absurd unset nofun
    · exact member
  · exact fun member => ⟨small cpu member, .inr member⟩

theorem maskOfCpus?_of_not_allowed (refused : ¬Allowed system cpus) : maskOfCpus? cpus system = none := by
  refine if_neg fun taken => refused ?_
  simpa [mem_cpusOfMask, Allowed] using taken

end Windows
end HostProbe
