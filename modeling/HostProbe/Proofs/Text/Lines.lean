import HostProbe.Number.Integer
import Mathlib.Data.List.DropRight
import Mathlib.Data.List.TakeWhile

/-! Texts put together from lines, and lines from words, and how the parsers cut them again. -/
namespace HostProbe

namespace Text

/-! ### Pieces between separators -/

theorem notMem_of_mem_splitOn {α : Type} [BEq α] [LawfulBEq α] {separator : α} {xs part : List α}
    (member : part ∈ xs.splitOn separator) : separator ∉ part := by
  induction xs generalizing part with
  | nil =>
    rw [List.splitOn_nil, List.mem_singleton] at member
    exact member ▸ List.not_mem_nil
  | cons x xs ih =>
    rw [List.splitOn_cons_eq_if_modifyHead] at member
    split at member
    case isTrue ends =>
      rcases List.mem_cons.mp member with rfl | later
      · exact List.not_mem_nil
      · exact ih later
    case isFalse goes =>
      obtain ⟨first, others, split⟩ := List.exists_cons_of_ne_nil (List.splitOn_ne_nil separator xs)
      rw [split] at member ih
      rcases List.mem_cons.mp member with rfl | later
      · rw [List.mem_cons, not_or]
        exact ⟨fun same => goes (beq_iff_eq.mpr same.symm), ih List.mem_cons_self⟩
      · exact ih (List.mem_cons_of_mem _ later)

/-! ### Lines -/

@[simp] theorem lines_nil : lines [] = [] := rfl

/-- A line is split off at its newline. -/
theorem lines_cons {line : Text} (single : '\n' ∉ line) (rest : Text) :
    lines (line ++ '\n' :: rest) = dropReturn line :: lines rest := by
  have pieces : (line ++ '\n' :: rest).splitOn '\n' = line :: rest.splitOn '\n' :=
    List.splitOnP_append_cons_of_forall_mem (fun c member => by simpa using ne_of_mem_of_not_mem member single)
      '\n' (by decide) rest
  obtain ⟨last, ended, reversed⟩ : ∃ last ended, (rest.splitOn '\n').reverse = last :: ended :=
    List.exists_cons_of_ne_nil (by simp)
  simp only [lines, pieces, List.reverse_cons, reversed, List.cons_append]
  simp

/-- Lines with a newline behind each are cut into the lines. -/
theorem lines_flatMap {ls : List Text} (single : ∀ line ∈ ls, '\n' ∉ line) :
    lines (ls.flatMap fun line => line ++ ['\n']) = ls.map dropReturn := by
  induction ls with
  | nil => rfl
  | cons line ls ih =>
    obtain ⟨first, others⟩ := List.forall_mem_cons.mp single
    rw [List.flatMap_cons, List.append_assoc, List.singleton_append, lines_cons first, ih others, List.map_cons]

theorem lines_of_notMem {line : Text} (single : '\n' ∉ line) (nonempty : line ≠ []) : lines line = [line] := by
  have pieces : line.splitOn '\n' = [line] :=
    List.splitOnP_eq_singleton fun c member => by simpa using ne_of_mem_of_not_mem member single
  simp [lines, pieces, nonempty]

/-- Only the text behind a blank in the line is affected. -/
theorem dropReturn_append_space (start rest : Text) :
    dropReturn (start ++ ' ' :: rest) = start ++ ' ' :: dropReturn rest := by
  cases reversed : rest.reverse with
  | nil =>
    rw [List.reverse_eq_nil_iff.mp reversed]
    simp [dropReturn]
  | cons c before =>
    by_cases cut : c = '\r'
    · subst cut
      simp [dropReturn, reversed]
    · simp [dropReturn, reversed, cut]

theorem dropReturn_append_return (t : Text) : dropReturn (t ++ ['\r']) = t := by
  simp [dropReturn]

theorem dropReturn_of_getLast? {t : Text} (other : t.getLast? ≠ some '\r') : dropReturn t = t := by
  rw [← List.head?_reverse] at other
  cases reversed : t.reverse with
  | nil => simp [dropReturn, reversed]
  | cons c before =>
    have different : c ≠ '\r' := by simpa [reversed] using other
    simp [dropReturn, reversed, different]

theorem dropReturn_cases (t : Text) : dropReturn t = t ∨ t = dropReturn t ++ ['\r'] := by
  cases reversed : t.reverse with
  | nil => exact .inl (by simp [dropReturn, reversed])
  | cons c before =>
    by_cases cut : c = '\r'
    · subst cut
      have whole : t = before.reverse ++ ['\r'] := by rw [← List.reverse_cons, ← reversed, List.reverse_reverse]
      have kept : dropReturn t = before.reverse := by simp only [dropReturn, reversed]
      exact .inr (by rw [kept, ← whole])
    · exact .inl (by simp [dropReturn, reversed, cut])

/-! ### Words -/

@[simp] theorem words_nil : words [] = [] := rfl

theorem words_blank {c : Char} (blank : isBlank c) (rest : Text) : words (c :: rest) = words rest := by
  simp [words, List.splitOnP_cons_eq_if_modifyHead, blank]

theorem words_blanks (count : Nat) (rest : Text) : words (List.replicate count ' ' ++ rest) = words rest := by
  induction count with
  | zero => rfl
  | succ count ih => rw [List.replicate_succ, List.cons_append, words_blank (by decide), ih]

theorem words_append_cons (t : Text) {c : Char} (blank : isBlank c) (rest : Text) :
    words (t ++ c :: rest) = words t ++ words rest := by
  rw [words, List.splitOnP_append_cons t rest blank, List.filter_append]
  rfl

theorem words_append_blank {c : Char} (blank : isBlank c) (t : Text) : words (t ++ [c]) = words t :=
  (words_append_cons t blank []).trans (List.append_nil _)

theorem words_of_unbroken {word : Text} (unbroken : ∀ c ∈ word, isBlank c = false) (nonempty : word ≠ []) :
    words word = [word] := by
  rw [words, List.splitOnP_eq_singleton unbroken]
  simp [nonempty]

theorem words_cons {word : Text} (unbroken : ∀ c ∈ word, isBlank c = false) (nonempty : word ≠ []) {c : Char}
    (blank : isBlank c) (rest : Text) : words (word ++ c :: rest) = word :: words rest := by
  rw [words_append_cons word blank, words_of_unbroken unbroken nonempty, List.singleton_append]

theorem words_dropReturn (t : Text) : words (dropReturn t) = words t := by
  rcases dropReturn_cases t with same | cut
  · rw [same]
  · exact (words_append_blank (by decide) _).symm.trans (congrArg words cut.symm)

theorem words_append_of_blank (t : Text) {ending : Text} (blank : ∀ c ∈ ending, isBlank c) :
    words (t ++ ending) = words t := by
  induction ending generalizing t with
  | nil => rw [List.append_nil]
  | cons c rest ih =>
    obtain ⟨first, others⟩ := List.forall_mem_cons.mp blank
    rw [← List.singleton_append, ← List.append_assoc, ih _ others, words_append_blank first]

theorem words_append_blanks (t : Text) (count : Nat) : words (t ++ List.replicate count ' ') = words t :=
  words_append_of_blank t fun c member => by
    rw [List.eq_of_mem_replicate member]
    decide

def aligned (gaps : Nat → Nat) : List Text → Text
  | [] => []
  | [word] => word
  | word :: next :: rest =>
    word ++ ' ' :: (List.replicate (gaps 0) ' ' ++ aligned (fun i => gaps (i + 1)) (next :: rest))

/-- Words come back from their columns, however wide these are. -/
theorem words_aligned {gaps : Nat → Nat} {ws : List Text}
    (all : ∀ word ∈ ws, word ≠ [] ∧ ∀ c ∈ word, isBlank c = false) : words (aligned gaps ws) = ws := by
  fun_induction aligned gaps ws with
  | case1 => rfl
  | case2 gaps word =>
    obtain ⟨nonempty, unbroken⟩ := all word List.mem_cons_self
    exact words_of_unbroken unbroken nonempty
  | case3 gaps word next rest ih =>
    obtain ⟨⟨nonempty, unbroken⟩, others⟩ := List.forall_mem_cons.mp all
    rw [words_cons unbroken nonempty (by decide), words_blanks, ih others]

theorem mem_aligned {gaps : Nat → Nat} {ws : List Text} {c : Char} (member : c ∈ aligned gaps ws) :
    c = ' ' ∨ ∃ word ∈ ws, c ∈ word := by
  fun_induction aligned gaps ws with
  | case1 => cases member
  | case2 gaps word => exact .inr ⟨word, List.mem_cons_self, member⟩
  | case3 gaps word next rest ih =>
    rw [List.mem_append, List.mem_cons, List.mem_append, List.mem_replicate] at member
    rcases member with within | rfl | ⟨-, rfl⟩ | behind
    · exact .inr ⟨word, List.mem_cons_self, within⟩
    · exact .inl rfl
    · exact .inl rfl
    · obtain space | ⟨other, among, within⟩ := ih behind
      · exact .inl space
      · exact .inr ⟨other, List.mem_cons_of_mem word among, within⟩

theorem trim_of_unbroken {word : Text} (unbroken : ∀ c ∈ word, isBlank c = false) : trim word = word := by
  have kept (t : Text) (none : ∀ c ∈ t, isBlank c = false) : t.dropWhile isBlank = t := by
    cases t with
    | nil => rfl
    | cons c rest => exact List.dropWhile_cons_of_neg (by simp [none c List.mem_cons_self])
  have backwards := kept word.reverse fun c member => unbroken c (List.mem_reverse.mp member)
  rw [trim, trimStart, kept word unbroken, trimEnd, backwards, List.reverse_reverse]

theorem splitOnce_cons {separator : Char} {key : Text} (absent : separator ∉ key) (rest : Text) :
    splitOnce separator (key ++ separator :: rest) = some (key, rest) := by
  have kept : ∀ c ∈ key, (fun c => !c == separator) c := fun c member => by
    simpa using ne_of_mem_of_not_mem member absent
  simp only [splitOnce, splitAtFirst, List.takeWhile_append_of_pos kept, List.dropWhile_append_of_pos kept]
  simp

theorem splitOnce_of_notMem {separator : Char} {t : Text} (absent : separator ∉ t) : splitOnce separator t = none := by
  have kept : ∀ c ∈ t, (fun c => !c == separator) c := fun c member => by
    simpa using ne_of_mem_of_not_mem member absent
  rw [splitOnce, splitAtFirst, List.dropWhile_eq_nil_iff.mpr kept]

/-- A text is split at its first separator. -/
theorem splitOnce_eq_some_iff {separator : Char} {t before after : Text} :
    splitOnce separator t = some (before, after) ↔ separator ∉ before ∧ t = before ++ separator :: after := by
  constructor
  · intro cut
    by_cases found : separator ∈ t
    case neg =>
      rw [splitOnce_of_notMem found] at cut
      cases cut
    obtain ⟨front, rest, rfl, absent⟩ := List.eq_append_cons_of_mem found
    rw [splitOnce_cons absent] at cut
    cases cut
    exact ⟨absent, rfl⟩
  · rintro ⟨absent, rfl⟩
    exact splitOnce_cons absent after

/-! ### Surrounding blanks -/

theorem trimStart_append_cons (before : Text) {c : Char} (solid : isBlank c = false) (after : Text) :
    trimStart (before ++ c :: after) = trimStart before ++ c :: after := by
  rw [trimStart, trimStart, List.dropWhile_append]
  split
  case isTrue empty =>
    rw [List.isEmpty_iff.mp empty, List.nil_append]
    exact List.dropWhile_cons_of_neg (by simp [solid])
  case isFalse => rfl

theorem trimEnd_append_cons (before : Text) {c : Char} (solid : isBlank c = false) (after : Text) :
    trimEnd (before ++ c :: after) = before ++ c :: trimEnd after := by
  have backwards := trimStart_append_cons after.reverse solid before.reverse
  rw [trimStart, trimStart] at backwards
  simp [trimEnd, backwards]

theorem blank_or_exists (t : Text) :
    (∀ c ∈ t, isBlank c) ∨ ∃ before c after, t = before ++ c :: after ∧ isBlank c = false := by
  by_cases blank : ∀ c ∈ t, isBlank c
  · exact .inl blank
  · simp only [not_forall, Bool.not_eq_true] at blank
    obtain ⟨c, member, solid⟩ := blank
    obtain ⟨before, after, rfl⟩ := List.append_of_mem member
    exact .inr ⟨before, c, after, rfl, solid⟩

theorem trimStart_of_blank {t : Text} (blank : ∀ c ∈ t, isBlank c) : trimStart t = [] :=
  List.dropWhile_eq_nil_iff.mpr blank

theorem trimEnd_of_blank {t : Text} (blank : ∀ c ∈ t, isBlank c) : trimEnd t = [] := by
  have backwards : t.reverse.dropWhile isBlank = [] :=
    List.dropWhile_eq_nil_iff.mpr fun c member => blank c (List.mem_reverse.mp member)
  rw [trimEnd, backwards, List.reverse_nil]

theorem trim_append_cons (before : Text) {c : Char} (solid : isBlank c = false) (after : Text) :
    trim (before ++ c :: after) = trimStart before ++ c :: trimEnd after := by
  rw [trim, trimStart_append_cons before solid, trimEnd_append_cons _ solid]

theorem trimStart_trimEnd (t : Text) : trimStart (trimEnd t) = trim t := by
  rcases blank_or_exists t with blank | ⟨before, c, after, rfl, solid⟩
  · rw [trim, trimEnd_of_blank blank, trimStart_of_blank blank]
    rfl
  · rw [trimEnd_append_cons before solid, trimStart_append_cons before solid, trim_append_cons before solid]

theorem trim_trimStart (t : Text) : trim (trimStart t) = trim t :=
  congrArg trimEnd (List.dropWhile_idempotent isBlank t)

theorem trim_trimEnd (t : Text) : trim (trimEnd t) = trim t := by
  rw [← trimStart_trimEnd, ← trimStart_trimEnd]
  exact congrArg trimStart (List.rdropWhile_idempotent isBlank t)

theorem mem_of_mem_trim {t : Text} {c : Char} (member : c ∈ trim t) : c ∈ t :=
  (List.dropWhile_sublist _).subset ((List.rdropWhile_prefix isBlank _).subset member)

theorem trim_eq_nil_iff {t : Text} : trim t = [] ↔ ∀ c ∈ t, isBlank c := by
  constructor
  · intro empty
    rcases blank_or_exists t with blank | ⟨before, c, after, rfl, solid⟩
    · exact blank
    · rw [trim_append_cons before solid] at empty
      simp at empty
  · intro blank
    rw [trim, trimStart_of_blank blank]
    rfl

end Text

/-! ### The last of several -/

/-- Of the items that give values, the last gives this one. -/
def LastGives {α β : Type} (gives : α → β → Prop) (items : List α) (value : β) : Prop :=
  ∃ before item after, items = before ++ item :: after ∧ gives item value ∧ ∀ later ∈ after, ∀ other, ¬gives later other

theorem not_lastGives_nil {α β : Type} {gives : α → β → Prop} {value : β} : ¬LastGives gives [] value := by
  rintro ⟨before, item, after, split, -⟩
  simp at split

/-- The last item decides, or those before it do where it gives nothing. -/
theorem lastGives_append_singleton {α β : Type} {gives : α → β → Prop} {items : List α} {item : α} {value : β} :
    LastGives gives (items ++ [item]) value ↔
      gives item value ∨ (∀ other, ¬gives item other) ∧ LastGives gives items value := by
  constructor
  · rintro ⟨before, own, after, split, given, none⟩
    rcases List.eq_nil_or_concat after with rfl | ⟨inner, last, rfl⟩
    · obtain ⟨-, same⟩ := List.append_inj' split rfl
      cases same
      exact .inl given
    · rw [List.concat_eq_append, ← List.cons_append, ← List.append_assoc] at split
      obtain ⟨rfl, same⟩ := List.append_inj' split rfl
      cases same
      rw [List.concat_eq_append, List.forall_mem_append] at none
      exact .inr ⟨none.2 item List.mem_cons_self, before, own, inner, rfl, given, none.1⟩
  · rintro (given | ⟨silent, before, own, after, rfl, given, none⟩)
    · exact ⟨items, item, [], rfl, given, nofun⟩
    · refine ⟨before, own, after ++ [item], by simp, given, List.forall_mem_append.mpr ⟨none, ?_⟩⟩
      exact List.forall_mem_singleton.mpr silent

end HostProbe
