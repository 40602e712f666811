import HostProbe.Procfs.Disks
import HostProbe.Proofs.Text.Utf8
import Mathlib.Data.List.Basic

/-! Octal escapes in the fields of tables. Reading a field undoes them whatever was escaped, and changes just the fields
in which an escape stands. -/
namespace HostProbe.Procfs

/-! ### Escapes -/

/-- A character of a device or of a mount point, as the kernel prints it. -/
def escapeChar : Char → Text
  | ' ' => "\\040".toList
  | '\t' => "\\011".toList
  | '\n' => "\\012".toList
  | '\\' => "\\134".toList
  | '#' => "\\043".toList
  | c => [c]

def escape (t : Text) : Text := t.flatMap escapeChar

def IsOctal (c : Char) : Prop := '0' ≤ c ∧ c ≤ '7'

def octalNumber (a b c : Char) : Nat := ((a.toNat - 48) * 8 + (b.toNat - 48)) * 8 + (c.toNat - 48)

instance (c : Char) : Decidable (IsOctal c) := inferInstanceAs (Decidable (_ ∧ _))

/-- The characters are octal digits whose number is that of a byte. -/
def TellsByte (a b c : Char) : Prop := (IsOctal a ∧ IsOctal b ∧ IsOctal c) ∧ octalNumber a b c ≤ 255

instance (a b c : Char) : Decidable (TellsByte a b c) := inferInstanceAs (Decidable (_ ∧ _))

/-- The text does not begin with a backslash that such digits follow. -/
def BeginsPlain (t : Text) : Prop := ∀ a b c rest, t = '\\' :: a :: b :: c :: rest → ¬TellsByte a b c

/-- In the text no backslash is followed by such digits. -/
def Escapeless (t : Text) : Prop := ∀ rest, rest <:+ t → BeginsPlain rest

/-- The bytes that a field stands for. From its first character on an escape is its byte, and where none begins the
character is itself; what an escape leaves behind is not looked at again. -/
inductive StandsFor : Text → Bytes → Prop
  | nil : StandsFor [] []
  | escape {a b c : Char} {rest : Text} {bytes : Bytes} (tells : TellsByte a b c) (behind : StandsFor rest bytes) :
      StandsFor ('\\' :: a :: b :: c :: rest) (UInt8.ofNat (octalNumber a b c) :: bytes)
  | plain {c : Char} {rest : Text} {bytes : Bytes} (plain : BeginsPlain (c :: rest)) (behind : StandsFor rest bytes) :
      StandsFor (c :: rest) (Utf8.encodeChar c ++ bytes)

/-- Every text stands for some bytes. -/
theorem exists_standsFor (t : Text) : ∃ bytes, StandsFor t bytes := by
  match t with
  | [] => exact ⟨[], .nil⟩
  | c :: rest =>
    by_cases plain : BeginsPlain (c :: rest)
    · obtain ⟨bytes, behind⟩ := exists_standsFor rest
      exact ⟨_, .plain plain behind⟩
    · simp only [BeginsPlain, not_forall, not_not] at plain
      obtain ⟨x, y, z, after, split, tells⟩ := plain
      obtain ⟨rfl, rfl⟩ := List.cons.inj split
      obtain ⟨bytes, behind⟩ := exists_standsFor after
      exact ⟨_, .escape tells behind⟩
termination_by t.length

theorem escapeless_nil : Escapeless [] := by
  rintro rest ending a b c behind rfl
  cases List.suffix_nil.mp ending

theorem escapeless_cons {c : Char} {t : Text} : Escapeless (c :: t) ↔ BeginsPlain (c :: t) ∧ Escapeless t := by
  simp only [Escapeless, List.suffix_cons_iff, forall_eq_or_imp]

/-- A field without escapes stands for itself. -/
theorem Escapeless.standsFor {t : Text} (escapeless : Escapeless t) : StandsFor t (Utf8.encode t) := by
  induction t with
  | nil => exact .nil
  | cons c t ih =>
    rw [escapeless_cons] at escapeless
    exact .plain escapeless.1 (ih escapeless.2)

theorem escape_cons (c : Char) (t : Text) : escape (c :: t) = escapeChar c ++ escape t := List.flatMap_cons

theorem escapeChar_cases (c : Char) :
    (c.toNat < 0x80 ∧ ∃ x y z, escapeChar c = ['\\', x, y, z] ∧ TellsByte x y z ∧ octalNumber x y z = c.toNat) ∨
      (c ≠ '\\' ∧ escapeChar c = [c]) := by
  unfold escapeChar
  split
  case h_6 backslash _ => exact .inr ⟨backslash, rfl⟩
  all_goals exact .inl ⟨by decide, _, _, _, rfl, by decide, rfl⟩

/-- What was escaped stands for what it was. -/
theorem standsFor_escape (t : Text) : StandsFor (escape t) (Utf8.encode t) := by
  induction t with
  | nil => exact .nil
  | cons c t ih =>
    rw [escape_cons, Utf8.encode_cons]
    rcases escapeChar_cases c with ⟨ascii, x, y, z, escaped, tells, number⟩ | ⟨other, same⟩
    · rw [escaped, Utf8.encodeChar_of_lt ascii, ← number]
      exact .escape tells ih
    · have plain : BeginsPlain (c :: escape t) := by
        rintro x y z rest split
        exact absurd (List.cons.inj split).1 other
      rw [same]
      exact .plain plain ih

/-! ### Digits in bytes -/

theorem isOctal_iff {c : Char} : IsOctal c ↔ 48 ≤ c.toNat ∧ c.toNat ≤ 55 := by
  simp [IsOctal, Char.le_def, UInt32.le_iff_toNat_le]

theorem octalValue?_eq_some_iff {x y z : UInt8} {value : Nat} : octalValue? x y z = some value ↔
    ((48 ≤ x.toNat ∧ x.toNat ≤ 55) ∧ (48 ≤ y.toNat ∧ y.toNat ≤ 55) ∧ 48 ≤ z.toNat ∧ z.toNat ≤ 55) ∧
      ((x.toNat - 48) * 8 + (y.toNat - 48)) * 8 + (z.toNat - 48) = value := by
  simp [octalValue?, UInt8.le_iff_toNat_le, and_assoc]

/-- The bytes of an escape, which tell what its characters tell. -/
theorem encode_escape {a b c : Char} (tells : TellsByte a b c) (rest : Text) :
    ∃ x y z, Utf8.encode ('\\' :: a :: b :: c :: rest) = [92, x, y, z] ++ Utf8.encode rest ∧
      octalValue? x y z = some (octalNumber a b c) := by
  obtain ⟨⟨first, second, third⟩, -⟩ := tells
  rw [isOctal_iff] at first second third
  have digit {d : Char} (octal : 48 ≤ d.toNat ∧ d.toNat ≤ 55) :
      Utf8.encodeChar d = [UInt8.ofNat d.toNat] ∧ (UInt8.ofNat d.toNat).toNat = d.toNat := by
    refine ⟨Utf8.encodeChar_of_lt (by omega), ?_⟩
    rw [UInt8.toNat_ofNat']
    omega
  obtain ⟨⟨first', x⟩, ⟨second', y⟩, ⟨third', z⟩⟩ := digit first, digit second, digit third
  refine ⟨UInt8.ofNat a.toNat, UInt8.ofNat b.toNat, UInt8.ofNat c.toNat, ?_, ?_⟩
  · rw [Utf8.encode_cons, Utf8.encode_cons, Utf8.encode_cons, Utf8.encode_cons, first', second', third']
    rfl
  · rw [octalValue?_eq_some_iff, x, y, z]
    exact ⟨⟨first, second, third⟩, rfl⟩

/-- Bytes that look like the digits of a byte are such digits, since those of other characters are larger. -/
theorem tellsByte_of_octalValue? {t : Text} {x y z : UInt8} {tail : Bytes} {value : Nat}
    (bytes : Utf8.encode t = x :: y :: z :: tail) (octal : octalValue? x y z = some value) (small : value < 256) :
    ∃ a b c rest, t = a :: b :: c :: rest ∧ TellsByte a b c := by
  obtain ⟨⟨first, second, third⟩, told⟩ := octalValue?_eq_some_iff.mp octal
  obtain ⟨a, t, rfl, sameA, bytes⟩ := Utf8.exists_cons_of_encode bytes (by omega)
  obtain ⟨b, t, rfl, sameB, bytes⟩ := Utf8.exists_cons_of_encode bytes (by omega)
  obtain ⟨c, t, rfl, sameC, bytes⟩ := Utf8.exists_cons_of_encode bytes (by omega)
  refine ⟨a, b, c, t, rfl, ⟨?_, ?_, ?_⟩, ?_⟩
  · rwa [isOctal_iff, sameA]
  · rwa [isOctal_iff, sameB]
  · rwa [isOctal_iff, sameC]
  · rw [octalNumber, sameA, sameB, sameC, told]
    omega

/-! ### Reading -/

theorem go_octal {x y z : UInt8} {value : Nat} (octal : octalValue? x y z = some value) (small : value < 256)
    (n : Nat) (rest found : Bytes) : unescapeBytes.go (n + 1) ([92, x, y, z] ++ rest) found =
      unescapeBytes.go n rest (UInt8.ofNat value :: found) := by
  have shape : [92, x, y, z] ++ rest = 92 :: x :: y :: z :: rest := rfl
  simp only [shape, unescapeBytes.go, octal, if_pos small]

theorem go_append {bytes : Bytes} (bare : 92 ∉ bytes) (n : Nat) (rest found : Bytes) :
    unescapeBytes.go (bytes.length + n) (bytes ++ rest) found = unescapeBytes.go n rest (bytes.reverse ++ found) := by
  induction bytes generalizing found with
  | nil => rw [List.length_nil, Nat.zero_add, List.nil_append, List.reverse_nil, List.nil_append]
  | cons b bytes ih =>
    rw [List.mem_cons, not_or] at bare
    have one : unescapeBytes.go (bytes.length + n + 1) (b :: (bytes ++ rest)) found =
        unescapeBytes.go (bytes.length + n) (bytes ++ rest) (b :: found) := by
      rw [unescapeBytes.go]
      exact fun _ _ _ _ same => absurd same.symm bare.1
    rw [List.length_cons, Nat.add_right_comm, List.cons_append, one, ih bare.2, List.reverse_cons, List.append_assoc]
    rfl

/-- A backslash is taken as it is where no escape begins. -/
theorem go_backslash {t : Text} (plain : BeginsPlain ('\\' :: t)) (n : Nat) (found : Bytes) :
    unescapeBytes.go (n + 1) (92 :: Utf8.encode t) found = unescapeBytes.go n (Utf8.encode t) (92 :: found) := by
  have large {x y z : UInt8} {tail : Bytes} {value : Nat} (bytes : Utf8.encode t = x :: y :: z :: tail)
      (octal : octalValue? x y z = some value) : ¬value < 256 := by
    intro small
    obtain ⟨a, b, c, rest, rfl, tells⟩ := tellsByte_of_octalValue? bytes octal small
    exact plain a b c rest rfl tells
  match bytes : Utf8.encode t with
  | [] => rfl
  | [_] => rfl
  | [_, _] => rfl
  | x :: y :: z :: tail =>
    cases octal : octalValue? x y z with
    | none => simp only [unescapeBytes.go, octal]
    | some value => simp only [unescapeBytes.go, octal, if_neg (large bytes octal)]

/-- So is any character, and it costs as many steps as it has bytes. -/
theorem go_plain {c : Char} {t : Text} (plain : BeginsPlain (c :: t)) (n : Nat) (found : Bytes) :
    unescapeBytes.go ((Utf8.encodeChar c).length + n) (Utf8.encodeChar c ++ Utf8.encode t) found =
      unescapeBytes.go n (Utf8.encode t) ((Utf8.encodeChar c).reverse ++ found) := by
  by_cases backslash : c = '\\'
  · subst backslash
    have single : Utf8.encodeChar '\\' = [92] := rfl
    rw [single, List.length_singleton, Nat.add_comm]
    exact go_backslash plain n found
  · have bare : 92 ∉ Utf8.encode [c] := Utf8.notMem_encode (c := '\\') (by decide) (by simpa using Ne.symm backslash)
    rw [Utf8.encode, List.flatMap_singleton] at bare
    exact go_append bare n _ found

/-- Undoing escapes gives the bytes that the text stands for. -/
theorem StandsFor.go_eq {t : Text} {bytes : Bytes} (stands : StandsFor t bytes) {n : Nat}
    (enough : (Utf8.encode t).length ≤ n) (found : Bytes) :
    unescapeBytes.go n (Utf8.encode t) found = found.reverse ++ bytes := by
  induction stands generalizing n found with
  | nil => cases n <;> exact (List.append_nil _).symm
  | @escape a b c rest bytes tells behind ih =>
    obtain ⟨x, y, z, whole, octal⟩ := encode_escape tells rest
    rw [whole, List.length_append, List.length_cons] at enough
    obtain ⟨left, rfl⟩ : ∃ left, n = left + 1 := Nat.exists_eq_add_of_le' (by omega)
    rw [whole, go_octal octal (Nat.lt_succ_of_le tells.2), ih (by omega), List.reverse_cons, List.append_assoc]
    rfl
  | @plain c rest bytes plain behind ih =>
    rw [Utf8.encode_cons, List.length_append] at enough
    obtain ⟨left, rfl⟩ := Nat.exists_eq_add_of_le (Nat.le_of_add_right_le enough)
    rw [Utf8.encode_cons, go_plain plain, ih (by omega), List.reverse_append, List.reverse_reverse, List.append_assoc]

theorem StandsFor.unescapeOctal_eq {t : Text} {bytes : Bytes} (stands : StandsFor t bytes) :
    unescapeOctal t = Utf8.toString bytes := by
  rw [unescapeOctal, unescapeBytes, stands.go_eq le_rfl, List.reverse_nil, List.nil_append]

/-! ### Lengths -/

section lengths

open Utf8 (Progress)

variable {t : Text} {bytes : Bytes} {p : Progress}

/-- No character is added, even if a byte of an escape is none of a character by itself. -/
theorem StandsFor.count_le (stands : StandsFor t bytes) (waits : p.Waits) :
    (bytes.foldl Progress.step p).count ≤ p.count + t.length := by
  induction stands generalizing p with
  | nil => exact Nat.le_refl _
  | @escape a b c rest bytes tells behind ih =>
    have first := p.count_step_le (UInt8.ofNat (octalNumber a b c))
    have others := ih (p.waits_step (UInt8.ofNat (octalNumber a b c)))
    simp only [List.foldl_cons, List.length_cons]
    omega
  | @plain c rest bytes plain behind ih =>
    have first := Progress.count_foldl_encodeChar_le waits c
    have others := ih (waits.foldl (Utf8.encodeChar c))
    rw [List.foldl_append, List.length_cons]
    omega

/-- Each escape that is undone makes a text shorter. -/
theorem StandsFor.count_lt (stands : StandsFor t bytes) (escaped : ¬Escapeless t) (waits : p.Waits) :
    (bytes.foldl Progress.step p).count < p.count + t.length := by
  induction stands generalizing p with
  | nil => exact absurd escapeless_nil escaped
  | @escape a b c rest bytes tells behind ih =>
    have first := p.count_step_le (UInt8.ofNat (octalNumber a b c))
    have others := behind.count_le (p.waits_step (UInt8.ofNat (octalNumber a b c)))
    simp only [List.foldl_cons, List.length_cons]
    omega
  | @plain c rest bytes plain behind ih =>
    have first := Progress.count_foldl_encodeChar_le waits c
    have later : ¬Escapeless rest := fun escapeless => escaped (escapeless_cons.mpr ⟨plain, escapeless⟩)
    have others := ih later (waits.foldl (Utf8.encodeChar c))
    rw [List.foldl_append, List.length_cons]
    omega

end lengths

/-! ### Round trip -/

theorem unescapeOctal_escape (t : Text) : unescapeOctal (escape t) = String.ofList t := by
  rw [(standsFor_escape t).unescapeOctal_eq, Utf8.toString_encode]

/-- A text is left as it is exactly if no escape begins in it. -/
theorem unescapeOctal_eq_iff {t : Text} : unescapeOctal t = String.ofList t ↔ Escapeless t := by
  constructor
  · intro same
    obtain ⟨bytes, stands⟩ := exists_standsFor t
    by_contra escaped
    rw [stands.unescapeOctal_eq, Utf8.toString, String.ofList_inj] at same
    have shorter := stands.count_lt escaped (Utf8.Progress.waits_boundary [])
    have start : Utf8.Progress.count {} = 0 := rfl
    rw [← Utf8.length_decodeLossy, same, start] at shorter
    omega
  · intro escapeless
    rw [escapeless.standsFor.unescapeOctal_eq, Utf8.toString_encode]

/-- Reading a field gives back what was escaped, also where that looked like escapes. Just the fields in which no
backslash is followed by the three octal digits of a byte are left as they are, and any field is read as the bytes that
it stands for. -/
theorem octalEscapes_undone (t : Text) :
    unescapeOctal (escape t) = String.ofList t ∧ (unescapeOctal t = String.ofList t ↔ Escapeless t) ∧
      ∃ bytes, StandsFor t bytes ∧ unescapeOctal t = Utf8.toString bytes := by
  obtain ⟨bytes, stands⟩ := exists_standsFor t
  exact ⟨unescapeOctal_escape t, unescapeOctal_eq_iff, bytes, stands, stands.unescapeOctal_eq⟩

example : escape "\\040 #".toList = "\\134040\\040\\043".toList ∧
    unescapeOctal "\\134040\\400\\04".toList = "\\040\\400\\04" := by decide

end HostProbe.Procfs
