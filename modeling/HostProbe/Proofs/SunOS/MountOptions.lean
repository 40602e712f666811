import HostProbe.Proofs.Text.Lines
import HostProbe.SunOS
import Mathlib.Data.List.Count

/-! Mount options in normal form: the access stands in front, once, and the other options follow as they came. -/
namespace HostProbe.SunOS

def accesses : List Text := ["ro".toList, "rw".toList]

/-- What a text that lists options in normal form is read as: the access, and then the others without the empty ones,
none of them moved, left out or doubled. -/
structure NormalForm (options normal access : Text) (others : List Text) : Prop where
  listed : normal.splitOn ',' = access :: others
  isAccess : access ∈ accesses
  readOnly : access = "ro".toList ↔ "ro".toList ∈ options.splitOn ','
  single : ∀ option ∈ others, option ∉ accesses
  nonempty : [] ∉ others
  ordered : others.Sublist (options.splitOn ',')
  kept : ∀ option, option ≠ [] → option ∉ accesses → others.count option = (options.splitOn ',').count option

namespace Probe

/-! ### The access and the others -/

def accessOf (parts : List Text) : Text := if parts.contains "ro".toList then "ro".toList else "rw".toList

def isOther (option : Text) : Bool := !option.isEmpty && option != "rw".toList && option != "ro".toList

def othersOf (parts : List Text) : List Text := parts.filter isOther

section parts

variable {parts : List Text} {option : Text}

theorem isOther_iff : isOther option = true ↔ option ≠ [] ∧ option ∉ accesses := by
  simp only [isOther, accesses, Bool.and_eq_true, Bool.not_eq_true', List.isEmpty_eq_false_iff, bne_iff_ne,
    List.mem_cons, List.not_mem_nil, or_false, not_or, and_assoc]
  exact and_congr_right fun _ => and_comm

theorem mem_othersOf : option ∈ othersOf parts ↔ option ∈ parts ∧ option ≠ [] ∧ option ∉ accesses := by
  rw [othersOf, List.mem_filter, isOther_iff]

theorem count_othersOf (nonempty : option ≠ []) (other : option ∉ accesses) :
    (othersOf parts).count option = parts.count option :=
  List.count_filter (isOther_iff.mpr ⟨nonempty, other⟩)

theorem accessOf_mem (parts : List Text) : accessOf parts ∈ accesses := by
  rw [accessOf]
  split
  · exact List.mem_cons_self
  · exact List.mem_cons_of_mem _ List.mem_cons_self

theorem accessOf_eq_iff : accessOf parts = "ro".toList ↔ "ro".toList ∈ parts := by
  rw [accessOf, ← List.contains_iff_mem]
  split
  case isTrue there => exact iff_of_true rfl there
  case isFalse missing => exact iff_of_false (by decide) missing

theorem accessOf_congr {others : List Text} (same : "ro".toList ∈ parts ↔ "ro".toList ∈ others) :
    accessOf parts = accessOf others := by
  simp only [accessOf, List.contains_iff_mem, same]

/-- Options in normal form give the access in front. -/
theorem accessOf_cons (parts : List Text) : accessOf (accessOf parts :: othersOf parts) = accessOf parts := by
  apply accessOf_congr
  rw [List.mem_cons, mem_othersOf, eq_comm, accessOf_eq_iff]
  exact or_iff_left fun other => other.2.2 List.mem_cons_self

theorem othersOf_cons (parts : List Text) : othersOf (accessOf parts :: othersOf parts) = othersOf parts := by
  have dropped : ¬isOther (accessOf parts) = true := fun other => (isOther_iff.mp other).2 (accessOf_mem parts)
  rw [othersOf, List.filter_cons_of_neg dropped]
  exact List.filter_eq_self.mpr fun option member => isOther_iff.mpr (mem_othersOf.mp member).2

end parts

/-! ### The normal form -/

theorem normalizeOptions_eq (options : Text) : normalizeOptions options =
    Text.join [','] (accessOf (options.splitOn ',') :: othersOf (options.splitOn ',')) := rfl

/-- Cut at its commas, the normal form is the access and the others. -/
theorem splitOn_normalizeOptions (options : Text) : (normalizeOptions options).splitOn ',' =
    accessOf (options.splitOn ',') :: othersOf (options.splitOn ',') := by
  have plain : ∀ access ∈ accesses, ',' ∉ access := by decide
  refine List.splitOn_intercalate ',' (List.forall_mem_cons.mpr ⟨?_, fun option member => ?_⟩) (List.cons_ne_nil _ _)
  · exact plain _ (accessOf_mem _)
  · exact Text.notMem_of_mem_splitOn (mem_othersOf.mp member).1

/-- Options of any text come out in normal form, and a text in normal form stays as it is. -/
theorem normalizeOptions_normal (options : Text) :
    (∃ access others, NormalForm options (normalizeOptions options) access others) ∧
      normalizeOptions (normalizeOptions options) = normalizeOptions options := by
  refine ⟨⟨accessOf (options.splitOn ','), othersOf (options.splitOn ','), ?_⟩, ?_⟩
  · exact {
      listed := splitOn_normalizeOptions options
      isAccess := accessOf_mem _
      readOnly := accessOf_eq_iff
      single := fun option member => (mem_othersOf.mp member).2.2
      nonempty := fun member => (mem_othersOf.mp member).2.1 rfl
      ordered := List.filter_sublist
      kept := fun option => count_othersOf }
  · rw [normalizeOptions_eq (normalizeOptions options), splitOn_normalizeOptions, accessOf_cons, othersOf_cons,
      normalizeOptions_eq]

example : normalizeOptions "rw,,nosuid,ro=x,ro,nosuid,".toList = "ro,nosuid,ro=x,nosuid".toList := by decide +kernel

end Probe
end HostProbe.SunOS
