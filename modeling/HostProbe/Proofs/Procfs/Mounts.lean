import HostProbe.Proofs.Procfs.OctalEscapes
import HostProbe.Proofs.Text.Lines

/-! Tables of mounts as the kernel prints them. Reading a table gives back its mounts, unless a device or a mount point
holds one of the blanks that the kernel prints as they are. -/
namespace HostProbe.Procfs

/-! ### Printed tables -/

structure IsMount (m : Partition) : Prop where
  device : m.device ≠ ""
  named : m.device ≠ "none"
  mountpoint : m.mountpoint ≠ ""
  fstype : m.fstype ≠ "" ∧ ∀ c ∈ m.fstype.toList, isBlank c = false
  opts : m.opts ≠ "" ∧ ∀ c ∈ m.opts.toList, isBlank c = false

/-- The line of a mount; other columns may stand behind those that are read. -/
def mountLine (others : List Text) (m : Partition) : Text :=
  escape m.device.toList ++ ' ' :: (escape m.mountpoint.toList ++ ' ' :: (m.fstype.toList ++ ' ' ::
    (m.opts.toList ++ others.flatMap (' ' :: ·))))

def mountTable (others : List Text) (ms : List Partition) : Text :=
  (ms.map (mountLine others)).flatMap fun line => line ++ ['\n']

/-- A blank that is printed as it is. -/
def leftBare (c : Char) : Bool := isBlank c && c != ' ' && c != '\t' && c != '\n'

/-- The text holds no blanks but those that are escaped. -/
def IsPlain (t : Text) : Prop := ∀ c ∈ t, leftBare c = false

instance (t : Text) : Decidable (IsPlain t) := inferInstanceAs (Decidable (∀ c ∈ t, leftBare c = false))

def usbStick : Partition := ⟨"/dev/sdb1", "/media/usb stick", "vfat", "ro,nosuid"⟩

def narrowStick : Partition := ⟨"/dev/sdb1", "/media/a\u00a0b", "vfat", "ro"⟩

example : mountLine ["0".toList, "0".toList] usbStick = "/dev/sdb1 /media/usb\\040stick vfat ro,nosuid 0 0".toList := by
  decide

/-! ### Columns -/

/-- Only the blanks that are left bare are printed. -/
theorem eq_of_mem_escapeChar {c d : Char} (member : d ∈ escapeChar c) (blank : isBlank d) :
    d = c ∧ leftBare c = true := by
  unfold escapeChar at member
  split at member
  case h_6 space tab newline _ _ =>
    rw [List.mem_singleton] at member
    subst member
    refine ⟨rfl, ?_⟩
    simp only [leftBare, blank, Bool.true_and, Bool.and_eq_true, bne_iff_ne]
    exact ⟨⟨space, tab⟩, newline⟩
  all_goals
    revert blank
    revert d
    decide

theorem unbroken_escape {t : Text} (plain : IsPlain t) : ∀ c ∈ escape t, isBlank c = false := by
  intro c member
  obtain ⟨d, among, printed⟩ := List.mem_flatMap.mp member
  by_contra blank
  rw [Bool.not_eq_false] at blank
  have bare := (eq_of_mem_escapeChar printed blank).2
  rw [plain d among] at bare
  cases bare

theorem escape_ne_nil {t : Text} (nonempty : t ≠ []) : escape t ≠ [] := by
  obtain ⟨c, rest, rfl⟩ := List.exists_cons_of_ne_nil nonempty
  have first : escapeChar c ≠ [] := by
    unfold escapeChar
    split <;> simp
  exact List.append_ne_nil_of_left_ne_nil first _

theorem words_escape_of_plain {t : Text} (plain : IsPlain t) (nonempty : t ≠ []) :
    Text.words (escape t) = [escape t] :=
  Text.words_of_unbroken (unbroken_escape plain) (escape_ne_nil nonempty)

theorem isBlank_of_leftBare {c : Char} (bare : leftBare c = true) : isBlank c := by
  simp only [leftBare, Bool.and_eq_true] at bare
  exact bare.1.1.1

theorem escapeChar_of_leftBare {c : Char} (bare : leftBare c = true) : escapeChar c = [c] := by
  unfold escapeChar
  split
  case h_6 => rfl
  all_goals exact absurd bare (by decide)

/-- A word of a printed text is a printed text itself, and holds no bare blanks. -/
theorem exists_escape_of_mem_words {t word : Text} (member : word ∈ Text.words (escape t)) :
    ∃ piece, IsPlain piece ∧ word = escape piece := by
  -- The induction goes along the text, with what stands since the last bare blank in front.
  suffices whole : ∀ plain, IsPlain plain → word ∈ Text.words (escape plain ++ escape t) →
      ∃ piece, IsPlain piece ∧ word = escape piece from whole [] nofun member
  clear member
  have single {plain : Text} (kept : IsPlain plain) (member : word ∈ Text.words (escape plain)) :
      ∃ piece, IsPlain piece ∧ word = escape piece := by
    by_cases nonempty : plain = []
    · subst nonempty
      cases member
    · rw [words_escape_of_plain kept nonempty, List.mem_singleton] at member
      exact ⟨plain, kept, member⟩
  induction t with
  | nil =>
    intro plain kept member
    exact single kept (List.append_nil (escape plain) ▸ member)
  | cons c t ih =>
    intro plain kept member
    rw [escape_cons] at member
    by_cases bare : leftBare c = true
    · rw [escapeChar_of_leftBare bare, List.singleton_append, Text.words_append_cons _ (isBlank_of_leftBare bare),
        List.mem_append] at member
      exact member.elim (single kept) (ih [] nofun)
    · refine ih (plain ++ [c]) ?_ ?_
      · intro d among
        rcases List.mem_append.mp among with before | last
        · exact kept d before
        · rw [List.mem_singleton.mp last]
          exact Bool.eq_false_iff.mpr bare
      · have next : escape (plain ++ [c]) = escape plain ++ escapeChar c := by
          rw [escape, List.flatMap_append, List.flatMap_singleton, escape]
        rwa [next, List.append_assoc]

theorem words_columns (t : Text) (others : List Text) :
    Text.words (t ++ others.flatMap (' ' :: ·)) = Text.words t ++ others.flatMap Text.words := by
  induction others generalizing t with
  | nil => rw [List.flatMap_nil, List.flatMap_nil, List.append_nil, List.append_nil]
  | cons column others ih =>
    rw [List.flatMap_cons, List.flatMap_cons, List.cons_append, Text.words_append_cons t (by decide), ih]

/-- A mount that is read has its columns on the line. -/
theorem exists_words_of_parseMount {wanted : Option (List String)} {line : Text} {m : Partition}
    (read : parseMount wanted line = some m) : ∃ device mountpoint fstype opts rest,
      Text.words line = device :: mountpoint :: fstype :: opts :: rest ∧
        m.device = (if device = "none".toList then "" else unescapeOctal device) ∧
        m.mountpoint = unescapeOctal mountpoint := by
  unfold parseMount at read
  split at read
  case h_1 device mountpoint fstype opts rest fields =>
    obtain ⟨-, ⟨⟩⟩ := Option.ite_none_right_eq_some.mp read
    exact ⟨device, mountpoint, fstype, opts, rest, fields, rfl, rfl⟩
  case h_2 => cases read

section line

variable {others : List Text} {m : Partition} (mount : IsMount m)

include mount

theorem words_mountLine : Text.words (mountLine others m) = Text.words (escape m.device.toList) ++
    (Text.words (escape m.mountpoint.toList) ++ m.fstype.toList :: m.opts.toList :: others.flatMap Text.words) := by
  have kind : m.fstype.toList ≠ [] := by simpa using mount.fstype.1
  have options : m.opts.toList ≠ [] := by simpa using mount.opts.1
  rw [mountLine, Text.words_append_cons _ (by decide), Text.words_append_cons _ (by decide),
    Text.words_cons mount.fstype.2 kind (by decide), words_columns, Text.words_of_unbroken mount.opts.2 options]
  rfl

theorem single_mountLine (single : ∀ column ∈ others, '\n' ∉ column) : '\n' ∉ mountLine others m := by
  have escaped (t : Text) : '\n' ∉ escape t := by
    intro member
    obtain ⟨c, -, printed⟩ := List.mem_flatMap.mp member
    obtain ⟨rfl, bare⟩ := eq_of_mem_escapeChar printed (by decide)
    exact absurd bare (by decide)
  have unbroken {t : Text} (unbroken : ∀ c ∈ t, isBlank c = false) : '\n' ∉ t := fun member =>
    absurd (unbroken _ member) (by decide)
  have behind : '\n' ∉ others.flatMap (' ' :: ·) := by
    intro member
    obtain ⟨column, among, within⟩ := List.mem_flatMap.mp member
    exact (List.mem_cons.mp within).elim (by decide) (single column among)
  simp [mountLine, escaped, unbroken mount.fstype.2, unbroken mount.opts.2, behind]

/-- A mount without bare blanks is read, if its kind is wanted. -/
theorem parseMount_of_plain (device : IsPlain m.device.toList) (mountpoint : IsPlain m.mountpoint.toList)
    (wanted : Option (List String)) :
    parseMount wanted (mountLine others m) = if wanted.all (·.contains m.fstype) then some m else none := by
  have first : Text.words (escape m.device.toList) = [escape m.device.toList] :=
    words_escape_of_plain device (by simpa using mount.device)
  have second : Text.words (escape m.mountpoint.toList) = [escape m.mountpoint.toList] :=
    words_escape_of_plain mountpoint (by simpa using mount.mountpoint)
  have named : escape m.device.toList ≠ "none".toList := by
    intro same
    have device := congrArg unescapeOctal same
    rw [unescapeOctal_escape, String.ofList_toList] at device
    exact mount.named device
  simp only [parseMount, words_mountLine mount, first, second, List.singleton_append, if_neg named,
    unescapeOctal_escape, String.ofList_toList]

/-- What is read in place of a mount with bare blanks is something else. -/
theorem plain_of_parseMount (read : parseMount none (mountLine [] m) = some m) :
    IsPlain m.device.toList ∧ IsPlain m.mountpoint.toList := by
  obtain ⟨first, second, third, fourth, rest, fields, device, mountpoint⟩ := exists_words_of_parseMount read
  have pieces : ∀ word ∈ Text.words (escape m.device.toList) ++ Text.words (escape m.mountpoint.toList),
      ∃ piece, IsPlain piece ∧ word = escape piece := by
    intro word member
    exact (List.mem_append.mp member).elim exists_escape_of_mem_words exists_escape_of_mem_words
  rw [words_mountLine mount, ← List.append_assoc] at fields
  -- Behind them are two words only, so the first two are theirs.
  match front : Text.words (escape m.device.toList) ++ Text.words (escape m.mountpoint.toList), pieces, fields with
  | [], _, fields => cases fields
  | [_], _, fields => cases fields
  | _ :: _ :: _, pieces, fields =>
    rw [List.cons_append, List.cons_append, List.cons.injEq, List.cons.injEq] at fields
    obtain ⟨rfl, rfl, -⟩ := fields
    obtain ⟨piece, plain, rfl⟩ := pieces _ List.mem_cons_self
    obtain ⟨piece', plain', rfl⟩ := pieces _ (List.mem_cons_of_mem _ List.mem_cons_self)
    rw [unescapeOctal_escape] at device mountpoint
    constructor
    · split at device
      · exact absurd device mount.device
      · rwa [device, String.toList_ofList]
    · rwa [mountpoint, String.toList_ofList]

end line

/-! ### Reading -/

/-- A table is read mount by mount. -/
theorem parseMounts_mountTable {others : List Text} {ms : List Partition} (mounts : ∀ m ∈ ms, IsMount m)
    (single : ∀ column ∈ others, '\n' ∉ column) (wanted : Option (List String)) :
    parseMounts (mountTable others ms) wanted = ms.filterMap (parseMount wanted ∘ mountLine others) := by
  have lines : Text.lines (mountTable others ms) = (ms.map (mountLine others)).map Text.dropReturn := by
    refine Text.lines_flatMap fun line member => ?_
    obtain ⟨m, among, rfl⟩ := List.mem_map.mp member
    exact single_mountLine (mounts m among) single
  have same : parseMount wanted ∘ Text.dropReturn = parseMount wanted := by
    funext line
    rw [Function.comp_apply, parseMount, Text.words_dropReturn, parseMount]
  rw [parseMounts, lines, List.filterMap_map, same, List.filterMap_map]

/-- Nothing is left out of a list that comes back whole. -/
theorem eq_some_of_filterMap_eq {α : Type} {f : α → Option α} {xs : List α} (whole : xs.filterMap f = xs) :
    ∀ x ∈ xs, f x = some x := by
  induction xs with
  | nil => exact nofun
  | cons x xs ih =>
    cases kept : f x with
    | none =>
      have shorter := List.length_filterMap_le f xs
      rw [List.filterMap_cons_none kept] at whole
      rw [whole, List.length_cons] at shorter
      omega
    | some y =>
      rw [List.filterMap_cons_some kept, List.cons.injEq] at whole
      exact List.forall_mem_cons.mpr ⟨whole.1 ▸ kept, ih whole.2⟩

/-- A table of mounts is read back just if no device and no mount point holds a blank that is printed as it is. Then
mounts of the wanted kinds are read, whatever stands in other columns. -/
theorem mountTable_read {ms : List Partition} (mounts : ∀ m ∈ ms, IsMount m) :
    (parseMounts (mountTable [] ms) none = ms ↔
        ∀ m ∈ ms, IsPlain m.device.toList ∧ IsPlain m.mountpoint.toList) ∧
      ((∀ m ∈ ms, IsPlain m.device.toList ∧ IsPlain m.mountpoint.toList) →
        ∀ others : List Text, (∀ column ∈ others, '\n' ∉ column) → ∀ wanted : Option (List String),
          parseMounts (mountTable others ms) wanted = ms.filter fun m => wanted.all (·.contains m.fstype)) := by
  have back (plain : ∀ m ∈ ms, IsPlain m.device.toList ∧ IsPlain m.mountpoint.toList) (others : List Text)
      (single : ∀ column ∈ others, '\n' ∉ column) (wanted : Option (List String)) :
      parseMounts (mountTable others ms) wanted = ms.filter fun m => wanted.all (·.contains m.fstype) := by
    rw [parseMounts_mountTable mounts single, ← List.filterMap_eq_filter]
    refine List.filterMap_congr fun m member => ?_
    obtain ⟨device, mountpoint⟩ := plain m member
    rw [Function.comp_apply, parseMount_of_plain (mounts m member) device mountpoint]
    rfl
  refine ⟨⟨fun whole m member => ?_, fun plain => ?_⟩, back⟩
  · rw [parseMounts_mountTable mounts (List.forall_mem_nil _)] at whole
    exact plain_of_parseMount (mounts m member) (eq_some_of_filterMap_eq whole m member)
  · rw [back plain [] (List.forall_mem_nil _) none]
    exact List.filter_true ms

/-- Of two mounts the one of a wanted kind, with the space in its label. -/
theorem mountTable_read_usbStick : (∀ m ∈ [⟨"proc", "/proc", "proc", "rw"⟩, usbStick], IsMount m) ∧
    parseMounts (mountTable ["0".toList, "0".toList] [⟨"proc", "/proc", "proc", "rw"⟩, usbStick]) (some ["ext4", "vfat"]) =
      [usbStick] := by
  have mounts : ∀ m ∈ [⟨"proc", "/proc", "proc", "rw"⟩, usbStick], IsMount m := by
    rw [List.forall_mem_cons, List.forall_mem_singleton]
    exact ⟨⟨by decide, by decide, by decide, by decide, by decide⟩, ⟨by decide, by decide, by decide, by decide, by decide⟩⟩
  have plain : ∀ m ∈ [⟨"proc", "/proc", "proc", "rw"⟩, usbStick],
      IsPlain m.device.toList ∧ IsPlain m.mountpoint.toList := by decide
  exact ⟨mounts, (mountTable_read mounts).2 plain _ (by decide) _⟩

/-- The label is cut at its no-break space, and the columns behind it are shifted. -/
theorem narrowStick_misread : IsMount narrowStick ∧
    parseMounts (mountTable [] [narrowStick]) none = [⟨"/dev/sdb1", "/media/a", "b", "vfat"⟩] ∧
    parseMounts (mountTable [] [narrowStick]) none ≠ [narrowStick] ∧
    parseMounts (mountTable [] [narrowStick]) (some ["vfat"]) = [] := by
  have mount : IsMount narrowStick := ⟨by decide, by decide, by decide, by decide, by decide⟩
  have read : parseMounts (mountTable [] [narrowStick]) none = [⟨"/dev/sdb1", "/media/a", "b", "vfat"⟩] := by decide
  refine ⟨mount, read, ?_, by decide⟩
  rw [read]
  decide

end HostProbe.Procfs
