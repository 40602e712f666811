import HostProbe.Windows.Disks
import Mathlib.Data.List.Infix
import Mathlib.Data.List.Pairwise
import Mathlib.Data.String.Basic

/-! Paths under the devices of drives. A path leads into a device only by whole components, so among devices none of
which leads into another at most one fits a path, and it does not matter in which order they are tried. -/
namespace HostProbe.Windows

/-- The path is the device itself, or goes on behind it with a backslash and any rest, which may be empty. -/
def LeadsInto (path device : String) : Prop := path = device ∨ ∃ rest, path = device ++ "\\" ++ rest

/-- Neither device is the other or lies within it. -/
def Apart (a b : String × String) : Prop := ¬LeadsInto a.1 b.1 ∧ ¬LeadsInto b.1 a.1

instance : Std.Symm Apart := ⟨fun _ _ apart => And.symm apart⟩

/-- No device of the list is another or lies within another. A backslash alone is enough to lie within: a path of one
device that is spelled like another device would belong to both. -/
def Separate (devices : List (String × String)) : Prop := devices.Pairwise Apart

/-! ### One device -/

section device

variable {path device : String}

private theorem toList_within (device rest : String) :
    (device ++ "\\" ++ rest).toList = device.toList ++ '\\' :: rest.toList := by
  rw [String.toList_append, String.toList_append, List.append_assoc]
  rfl

/-- What stands behind a device in a path is nothing, or begins with a backslash. -/
theorem behindDevice?_eq_some_iff {rest : Text} : behindDevice? path.toList device.toList = some rest ↔
    path.toList = device.toList ++ rest ∧ (rest = [] ∨ rest.head? = some '\\') := by
  simp only [behindDevice?, Option.ite_none_right_eq_some, List.isPrefixOf_iff_prefix, Option.some.injEq,
    Bool.or_eq_true, List.isEmpty_iff, decide_eq_true_eq]
  constructor
  · rintro ⟨⟨behind, split⟩, ends, rfl⟩
    rw [← split, List.drop_left] at ends ⊢
    exact ⟨rfl, ends⟩
  · rintro ⟨split, ends⟩
    rw [split, List.drop_left]
    exact ⟨List.prefix_append _ _, ends, rfl⟩

theorem behindDevice?_self (device : String) : behindDevice? device.toList device.toList = some [] :=
  behindDevice?_eq_some_iff.mpr ⟨(List.append_nil _).symm, .inl rfl⟩

theorem behindDevice?_within (device rest : String) :
    behindDevice? (device ++ "\\" ++ rest).toList device.toList = some ('\\' :: rest.toList) :=
  behindDevice?_eq_some_iff.mpr ⟨toList_within device rest, .inr rfl⟩

theorem leadsInto_iff : LeadsInto path device ↔ ∃ rest, behindDevice? path.toList device.toList = some rest := by
  constructor
  · rintro (rfl | ⟨rest, rfl⟩)
    · exact ⟨_, behindDevice?_self path⟩
    · exact ⟨_, behindDevice?_within device rest⟩
  · rintro ⟨_, behind⟩
    obtain ⟨split, rfl | first⟩ := behindDevice?_eq_some_iff.mp behind
    · exact .inl (String.toList_inj.mp (split.trans (List.append_nil _)))
    · obtain ⟨rest, rfl⟩ := List.head?_eq_some_iff.mp first
      refine .inr ⟨String.ofList rest, String.toList_inj.mp ?_⟩
      rw [split, toList_within, String.toList_ofList]

instance (path device : String) : Decidable (LeadsInto path device) :=
  decidable_of_iff _ (Option.isSome_iff_exists.trans leadsInto_iff.symm)

instance (a b : String × String) : Decidable (Apart a b) := inferInstanceAs (Decidable (_ ∧ _))

instance (devices : List (String × String)) : Decidable (Separate devices) :=
  inferInstanceAs (Decidable (devices.Pairwise Apart))

/-- Of two devices that one path leads into, the longer lies within the shorter. -/
theorem leadsInto_of_longer {longer : String} (into : LeadsInto path device)
    (starts : device.toList <+: longer.toList) (along : longer.toList <+: path.toList) : LeadsInto longer device := by
  obtain ⟨rest, behind⟩ := leadsInto_iff.mp into
  obtain ⟨split, ends⟩ := behindDevice?_eq_some_iff.mp behind
  obtain ⟨more, goes⟩ := starts
  rw [split, ← goes, List.prefix_append_right_inj] at along
  refine leadsInto_iff.mpr ⟨more, behindDevice?_eq_some_iff.mpr ⟨goes.symm, ?_⟩⟩
  cases more with
  | nil => exact .inl rfl
  | cons c more =>
    obtain ⟨tail, rfl⟩ := along
    exact .inr (ends.resolve_left nofun)

/-- Of two devices that a path leads into, one lies within the other. -/
theorem leadsInto_total {other : String} (into : LeadsInto path device) (also : LeadsInto path other) :
    LeadsInto device other ∨ LeadsInto other device := by
  have along : ∀ {d : String}, LeadsInto path d → d.toList <+: path.toList := by
    intro d leads
    obtain ⟨rest, behind⟩ := leadsInto_iff.mp leads
    exact ⟨rest, (behindDevice?_eq_some_iff.mp behind).1.symm⟩
  rcases List.prefix_or_prefix_of_prefix (along into) (along also) with shorter | longer
  · exact .inr (leadsInto_of_longer into shorter (along also))
  · exact .inl (leadsInto_of_longer also longer (along into))

end device

/-! ### Devices in any order -/

section devices

variable {path device drive : String} {devices : List (String × String)}

theorem Separate.perm (separate : Separate devices) {others : List (String × String)} (same : others.Perm devices) :
    Separate others :=
  same.symm.pairwise separate fun apart => And.symm apart

/-- A path leads into one device at most. -/
theorem Separate.eq_of_leadsInto (separate : Separate devices) {a b : String × String} (first : a ∈ devices)
    (second : b ∈ devices) (into : LeadsInto path a.1) (also : LeadsInto path b.1) : a = b := by
  by_contra different
  obtain ⟨outside, beyond⟩ := List.Pairwise.forall separate first second different
  exact (leadsInto_total into also).elim outside beyond

private theorem drivePath_eq (path : String) (devices : List (String × String)) : drivePath path devices =
    (devices.findSome? fun entry => (behindDevice? path.toList entry.1.toList).map fun rest =>
      entry.2 ++ String.ofList rest).getD path := rfl

/-- The drive takes the place of the device, wherever that stands in the list. -/
theorem drivePath_of_behind (separate : Separate devices) (member : (device, drive) ∈ devices) {rest : Text}
    (behind : behindDevice? path.toList device.toList = some rest) :
    drivePath path devices = drive ++ String.ofList rest := by
  rw [drivePath_eq]
  cases found : devices.findSome? _ with
  | none =>
    have passed := List.findSome?_eq_none_iff.mp found (device, drive) member
    rw [behind] at passed
    cases passed
  | some answer =>
    obtain ⟨entry, among, shown⟩ := List.exists_of_findSome?_eq_some found
    obtain ⟨tail, follows, rfl⟩ := Option.map_eq_some_iff.mp shown
    have same := separate.eq_of_leadsInto among member (leadsInto_iff.mpr ⟨_, follows⟩) (leadsInto_iff.mpr ⟨_, behind⟩)
    rw [same] at follows ⊢
    rw [Option.some.inj (follows.symm.trans behind), Option.getD_some]

theorem drivePath_of_outside (outside : ∀ entry ∈ devices, ¬LeadsInto path entry.1) :
    drivePath path devices = path := by
  have passed : ∀ entry ∈ devices, ((behindDevice? path.toList entry.1.toList).map fun rest =>
      entry.2 ++ String.ofList rest) = none := by
    intro entry member
    rw [Option.map_eq_none_iff, Option.eq_none_iff_forall_ne_some]
    exact fun rest behind => outside entry member (leadsInto_iff.mpr ⟨rest, behind⟩)
  rw [drivePath_eq, List.findSome?_eq_none_iff.mpr passed, Option.getD_none]

end devices

def volumes : List (String × String) :=
  [("\\Device\\HarddiskVolume1", "C:"), ("\\Device\\HarddiskVolume10", "D:"), ("\\Device\\CdRom0", "E:")]

end HostProbe.Windows
