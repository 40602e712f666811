import HostProbe.Procfs.NetTables
import HostProbe.Proofs.Text.Hexadecimal
import HostProbe.Proofs.Text.Lines
import HostProbe.Proofs.Text.Utf8
import HostProbe.Record.Network

/-! Addresses in the tables of internet sockets: which texts are read, which are refused, and which end the query since
they would be cut inside a character. -/
namespace HostProbe

namespace Procfs

open Integer (IsHex hexValue magnitude plus_of_magnitude magnitude_of_notMem not_plus_of_isHex mem_of_isHex_magnitude
  ascii_of_isHex_magnitude length_magnitude_le)

/-! ### Texts of addresses -/

/-- One word or four in hexadecimal digits, a colon, and a port that fits sixteen bits. -/
def IsAddressText (field : Text) : Prop :=
  ∃ ip port, field = ip ++ ':' :: port ∧ (ip.length = 8 ∨ ip.length = 32) ∧ IsHex ip ∧ IsHex port ∧
    hexValue port ≤ 0xffff

/-- Eight characters of a word as it is read: the first may be a plus sign. -/
def IsHexWord (word : Text) : Prop := word.length = 8 ∧ IsHex (magnitude word)

/-- Octets of a word, which was printed as a native number of the machine. -/
def wordOctets (word : Text) : Bytes := Bytes.ofNat 4 (hexValue (magnitude word))

structure Spells (words : List Text) (port : Text) (address : SocketAddress) : Prop where
  hex : ∀ word ∈ words, IsHexWord word
  octets : address.ip.octets = List.flatMap wordOctets words
  digits : IsHex (magnitude port)
  value : hexValue (magnitude port) = address.port
  fits : address.port ≤ 0xffff

def Denotes (field : Text) (address : SocketAddress) : Prop :=
  ∃ words port, field = List.flatten words ++ ':' :: port ∧ Spells words port address

/-- A character of the text lies on both sides of the eighth byte's end. -/
def Straddles (rest : Text) : Prop :=
  ∃ before c after, rest = before ++ c :: after ∧ (Utf8.encode before).length < 8 ∧
    8 < (Utf8.encode before).length + (Utf8.encodeChar c).length

/-- A text of the right length with the port of an address, in which the next word behind some whole ones would end
inside a character. -/
def SplitsCharacter (field : Text) : Prop :=
  ∃ words rest port, field = (List.flatten words ++ rest) ++ ':' :: port ∧ ':' ∉ rest ∧
    (Utf8.encode (List.flatten words ++ rest)).length = 32 ∧ (∀ word ∈ words, IsHexWord word) ∧ Straddles rest ∧
      IsHex (magnitude port) ∧ hexValue (magnitude port) ≤ 0xffff

def badAddress (field : Text) : Fault := .report (.parse "/proc/net" ("bad address " ++ Text.quoted field))

/-! ### Words -/

theorem length_wordOctets (word : Text) : (wordOctets word).length = 4 := Bytes.length_ofNat 4 _

theorem length_flatMap_wordOctets (words : List Text) : (words.flatMap wordOctets).length = 4 * words.length := by
  induction words with
  | nil => rfl
  | cons word words ih =>
    rw [List.flatMap_cons, List.length_append, length_wordOctets, ih, List.length_cons]
    omega

/-- Eight bytes at a boundary are read as a word if they have the form of one. -/
theorem hexWord?_eq_some_iff {word : Text} (eight : (Utf8.encode word).length = 8) {octets : Bytes} :
    hexWord? (Utf8.encode word) = some octets ↔ IsHexWord word ∧ wordOctets word = octets := by
  have small (hex : IsHex (magnitude word)) (length : word.length = 8) : hexValue (magnitude word) ≤ 0xffffffff := by
    have below : hexValue (magnitude word) < (0 + 1) * 16 ^ (magnitude word).length := Integer.hexValueFrom_lt hex.2
    have width : 16 ^ (magnitude word).length ≤ 16 ^ 8 :=
      Nat.pow_le_pow_right (by decide) ((length_magnitude_le word).trans_eq length)
    omega
  simp only [hexWord?, Utf8.decode?_encode, Option.bind_some, Option.map_eq_some_iff, Integer.hex?_eq_some_iff]
  constructor
  · rintro ⟨n, ⟨hex, rfl, -⟩, rfl⟩
    exact ⟨⟨(Utf8.length_encode_of_ascii (ascii_of_isHex_magnitude hex)).symm.trans eight, hex⟩, rfl⟩
  · rintro ⟨⟨length, hex⟩, rfl⟩
    exact ⟨_, ⟨hex, rfl, small hex length⟩, rfl⟩

theorem atBoundary_encode (t : Text) : atBoundary (Utf8.encode t) = true := by
  cases t with
  | nil => rfl
  | cons c t =>
    obtain ⟨first, tail, bytes, start, -⟩ := Utf8.encodeChar_shape c
    rw [Utf8.encode_cons, bytes]
    simpa [atBoundary, UInt8.lt_iff_toNat_lt, UInt8.le_iff_toNat_le] using start

variable {bad : Fault} {n : Nat}

/-- A word that ends at a boundary is read, and then the others are. -/
theorem hexWords_append {word : Text} (eight : (Utf8.encode word).length = 8) (rest : Text) :
    hexWords bad (n + 1) (Utf8.encode (word ++ rest)) =
      match hexWord? (Utf8.encode word) with
      | none => .error bad
      | some octets => do return octets ++ (← hexWords bad n (Utf8.encode rest)) := by
  have start : atBoundary (Utf8.encode word ++ Utf8.encode rest) = true := by
    rw [← Utf8.encode_append]
    exact atBoundary_encode _
  rw [hexWords, Utf8.encode_append, List.take_left' eight, List.drop_left' eight, start, atBoundary_encode]
  rfl

/-- A word that ends inside a character aborts. -/
theorem hexWords_straddles {rest : Text} (straddles : Straddles rest) :
    hexWords bad (n + 1) (Utf8.encode rest) = Outcome.abort := by
  obtain ⟨before, c, after, rfl, early, late⟩ := straddles
  obtain ⟨first, tail, bytes, -, inner⟩ := Utf8.encodeChar_shape c
  have inside : atBoundary ((Utf8.encode (before ++ c :: after)).drop 8) = false := by
    -- The eighth byte's successor is not the character's first.
    obtain ⟨skip, place⟩ : ∃ skip, 8 = (Utf8.encode before).length + (skip + 1) :=
      ⟨8 - (Utf8.encode before).length - 1, by omega⟩
    have within : skip < tail.length := by
      rw [bytes, List.length_cons] at late
      omega
    have cut : (Utf8.encode (before ++ c :: after)).drop 8 = tail.drop skip ++ Utf8.encode after := by
      rw [Utf8.encode_append, Utf8.encode_cons, bytes, place, List.drop_length_add_append,
        List.cons_append, List.drop_succ_cons, List.drop_append_of_le_length within.le]
    obtain ⟨low, high⟩ := inner tail[skip] (List.getElem_mem within)
    have low : 0x80 ≤ tail[skip] := UInt8.le_iff_toNat_le.mpr low
    have high : tail[skip] < 0xC0 := UInt8.lt_iff_toNat_lt.mpr high
    rw [cut, List.drop_eq_getElem_cons within, List.cons_append]
    simpa [atBoundary] using ⟨low, high⟩
  rw [hexWords, inside]
  simp

/-- Whole words are read, whatever comes of what is behind them. -/
theorem hexWords_flatten (bad : Fault) {words : List Text} (hex : ∀ word ∈ words, IsHexWord word) (rest : Text) :
    hexWords bad (words.length + n) (Utf8.encode (words.flatten ++ rest)) =
      (hexWords bad n (Utf8.encode rest)).map (words.flatMap wordOctets ++ ·) := by
  induction words with
  | nil =>
    rw [List.length_nil, Nat.zero_add, List.flatten_nil, List.nil_append]
    cases hexWords bad n (Utf8.encode rest) <;> rfl
  | cons word words ih =>
    have one : IsHexWord word := hex word List.mem_cons_self
    have eight : (Utf8.encode word).length = 8 :=
      (Utf8.length_encode_of_ascii (ascii_of_isHex_magnitude one.2)).trans one.1
    have octets : hexWord? (Utf8.encode word) = some (wordOctets word) := (hexWord?_eq_some_iff eight).mpr ⟨one, rfl⟩
    rw [List.length_cons, Nat.add_right_comm, List.flatten_cons, List.append_assoc, hexWords_append eight, octets,
      ih fun other member => hex other (List.mem_cons_of_mem word member)]
    cases hexWords bad n (Utf8.encode rest) with
    | error fault => rfl
    | ok octets => exact congrArg Except.ok (List.append_assoc ..).symm

/-- Of so many eights of bytes, all are words, or one would end inside a character, or one is no word. -/
theorem hexWords_cases (bad : Fault) {t : Text} (length : (Utf8.encode t).length = 8 * n) :
    (∃ words, t = List.flatten words ∧ ∀ word ∈ words, IsHexWord word) ∨
      (∃ words rest, t = List.flatten words ++ rest ∧ (∀ word ∈ words, IsHexWord word) ∧ Straddles rest) ∨
        hexWords bad n (Utf8.encode t) = .error bad := by
  induction n generalizing t with
  | zero => exact .inl ⟨[], Utf8.encode_eq_nil_iff.mp (List.length_eq_zero_iff.mp length), nofun⟩
  | succ n ih =>
    rcases Utf8.cut_encode (t := t) (n := 8) (by omega) with ⟨word, rest, rfl, eight⟩ | straddles
    case inr => exact .inr (.inl ⟨[], t, rfl, nofun, straddles⟩)
    have others : (Utf8.encode rest).length = 8 * n := by
      rw [Utf8.encode_append, List.length_append, eight] at length
      omega
    rw [hexWords_append eight]
    cases octets : hexWord? (Utf8.encode word) with
    | none => exact .inr (.inr rfl)
    | some octets =>
      have one : IsHexWord word := ((hexWord?_eq_some_iff eight).mp octets).1
      have more {words : List Text} (hex : ∀ word ∈ words, IsHexWord word) : ∀ w ∈ word :: words, IsHexWord w :=
        List.forall_mem_cons.mpr ⟨one, hex⟩
      rcases ih others with ⟨words, rfl, hex⟩ | ⟨words, tail, rfl, hex, straddles⟩ | failed
      · exact .inl ⟨word :: words, rfl, more hex⟩
      · exact .inr (.inl ⟨word :: words, tail, (List.append_assoc ..).symm, more hex, straddles⟩)
      · refine .inr (.inr ?_)
        rw [failed]
        rfl

/-! ### Addresses -/

theorem IsHexWord.not_colon {words : List Text} (hex : ∀ word ∈ words, IsHexWord word) : ':' ∉ words.flatten := by
  intro member
  obtain ⟨word, among, within⟩ := List.mem_flatten.mp member
  rcases mem_of_isHex_magnitude (hex word among).2 within with same | digit
  · cases same
  · exact absurd digit (by decide)

theorem length_flatten {words : List Text} (hex : ∀ word ∈ words, IsHexWord word) :
    words.flatten.length = 8 * words.length := by
  induction words with
  | nil => rfl
  | cons word words ih =>
    obtain ⟨one, others⟩ := List.forall_mem_cons.mp hex
    rw [List.flatten_cons, List.length_append, one.1, ih others, List.length_cons]
    omega

theorem length_encode_flatten {words : List Text} (hex : ∀ word ∈ words, IsHexWord word) :
    (Utf8.encode words.flatten).length = 8 * words.length := by
  rw [← length_flatten hex]
  refine Utf8.length_encode_of_ascii fun c member => ?_
  obtain ⟨word, among, within⟩ := List.mem_flatten.mp member
  exact ascii_of_isHex_magnitude (hex word among).2 c within

/-- The port is looked at before the address. -/
theorem parse_append {ip port : Text} (single : ':' ∉ ip) : parseHexSocketAddress (ip ++ ':' :: port) =
    match Integer.hex? 0xffff port with
    | none => .error (badAddress (ip ++ ':' :: port))
    | some port' =>
      if (Utf8.encode ip).length = 8 then
        match (hexWord? (Utf8.encode ip)).bind IpAddress.v4? with
        | some ip => .ok ⟨ip, port'⟩
        | none => .error (badAddress (ip ++ ':' :: port))
      else if (Utf8.encode ip).length = 32 then do
        match IpAddress.v6? (← hexWords (badAddress (ip ++ ':' :: port)) 4 (Utf8.encode ip)) with
        | some ip => return ⟨ip, port'⟩
        | none => .error (badAddress (ip ++ ':' :: port))
      else .error (badAddress (ip ++ ':' :: port)) := by
  simp only [parseHexSocketAddress, Text.splitOnce_cons single]
  rfl

theorem parse_of_denotes {field : Text} {address : SocketAddress} (denotes : Denotes field address) :
    parseHexSocketAddress field = .ok address := by
  obtain ⟨words, port, rfl, spells⟩ := denotes
  obtain ⟨ip, number⟩ := address
  have read : Integer.hex? 0xffff port = some number :=
    Integer.hex?_eq_some_iff.mpr ⟨spells.digits, spells.value, spells.fits⟩
  have bytes := length_encode_flatten spells.hex
  rw [parse_append (IsHexWord.not_colon spells.hex), read]
  cases ip with
  | v4 o =>
    have octets : o.toList = words.flatMap wordOctets := spells.octets
    have one : words.length = 1 := by
      have count := congrArg List.length octets
      rw [length_flatMap_wordOctets, Vector.length_toList] at count
      omega
    obtain ⟨word, rfl⟩ := List.length_eq_one_iff.mp one
    have eight : (Utf8.encode word).length = 8 := by simpa using bytes
    have first : hexWord? (Utf8.encode word) = some o.toList := by
      refine (hexWord?_eq_some_iff eight).mpr ⟨spells.hex word List.mem_cons_self, ?_⟩
      simpa using octets.symm
    have whole : List.flatten [word] = word := List.append_nil word
    simp only [whole, eight, if_true, first, Option.bind_some, IpAddress.v4?_octets]
  | v6 o =>
    have octets : o.toList = words.flatMap wordOctets := spells.octets
    have four : words.length = 4 := by
      have count := congrArg List.length octets
      rw [length_flatMap_wordOctets, Vector.length_toList] at count
      omega
    have all (bad : Fault) : hexWords bad 4 (Utf8.encode words.flatten) = .ok o.toList := by
      have flat := hexWords_flatten (n := 0) bad spells.hex []
      rw [List.append_nil, four] at flat
      rw [flat, octets]
      exact congrArg Except.ok (List.append_nil _)
    simp only [bytes, four, Nat.reduceMul, Nat.reduceEqDiff, if_false, if_true, all]
    simp only [bind, Except.bind, IpAddress.v6?_octets]
    rfl

/-- A text that would be cut inside a character aborts. -/
theorem parse_of_splitsCharacter {field : Text} (splits : SplitsCharacter field) :
    parseHexSocketAddress field = Outcome.abort := by
  obtain ⟨words, rest, port, rfl, single, length, hex, straddles, digits, fits⟩ := splits
  have read : Integer.hex? 0xffff port = some (hexValue (magnitude port)) :=
    Integer.hex?_eq_some_iff.mpr ⟨digits, rfl, fits⟩
  have apart : ':' ∉ words.flatten ++ rest := by
    rw [List.mem_append]
    exact fun member => member.elim (IsHexWord.not_colon hex) single
  have fewer : words.length < 4 := by
    obtain ⟨before, c, after, rfl, -, late⟩ := straddles
    rw [Utf8.encode_append, List.length_append, length_encode_flatten hex, Utf8.encode_append, Utf8.encode_cons,
      List.length_append, List.length_append] at length
    omega
  obtain ⟨left, sum⟩ := Nat.exists_eq_add_of_lt fewer
  have aborts (bad : Fault) : hexWords bad 4 (Utf8.encode (words.flatten ++ rest)) = Outcome.abort := by
    rw [sum, Nat.add_assoc, hexWords_flatten bad hex, hexWords_straddles straddles]
    rfl
  rw [parse_append apart, read]
  simp only [length, Nat.reduceEqDiff, if_false, if_true, aborts]
  rfl

/-- One word or four and a port denote an address. -/
theorem exists_denotes {words : List Text} {port : Text} {number : Nat}
    (hex : ∀ word ∈ words, IsHexWord word) (count : words.length = 1 ∨ words.length = 4)
    (read : Integer.hex? 0xffff port = some number) :
    ∃ address, Denotes (words.flatten ++ ':' :: port) address := by
  obtain ⟨digits, value, fits⟩ := Integer.hex?_eq_some_iff.mp read
  have length := length_flatMap_wordOctets words
  obtain ⟨ip, octets⟩ : ∃ ip : IpAddress, ip.octets = words.flatMap wordOctets := IpAddress.exists_octets (by omega)
  exact ⟨⟨ip, number⟩, words, port, rfl, hex, octets, digits, value, fits⟩

/-- A text denotes an address, or would be cut inside a character, or is refused. -/
theorem parse_cases (field : Text) : (∃ address, Denotes field address) ∨ SplitsCharacter field ∨
    parseHexSocketAddress field = .error (badAddress field) := by
  by_cases colon : ':' ∈ field
  case neg =>
    refine .inr (.inr ?_)
    simp only [parseHexSocketAddress, Text.splitOnce_of_notMem colon]
    rfl
  obtain ⟨ip, port, rfl, single⟩ := List.eq_append_cons_of_mem colon
  rw [parse_append single]
  cases read : Integer.hex? 0xffff port with
  | none => exact .inr (.inr rfl)
  | some number =>
    by_cases eight : (Utf8.encode ip).length = 8
    case pos =>
      simp only [eight, if_true]
      cases first : hexWord? (Utf8.encode ip) with
      | none => exact .inr (.inr rfl)
      | some octets =>
        have hex : IsHexWord ip := ((hexWord?_eq_some_iff eight).mp first).1
        have denotes : ∃ address, Denotes (List.flatten [ip] ++ ':' :: port) address :=
          exists_denotes (by simpa using hex) (.inl rfl) read
        exact .inl (by simpa using denotes)
    by_cases long : (Utf8.encode ip).length = 32
    case neg =>
      simp only [eight, long, if_false]
      exact .inr (.inr trivial)
    rcases hexWords_cases (n := 4) (badAddress (ip ++ ':' :: port)) long with
      ⟨words, rfl, hex⟩ | ⟨words, rest, rfl, hex, straddles⟩ | failed
    · have four : words.length = 4 := by
        have bytes := length_encode_flatten hex
        omega
      exact .inl (exists_denotes hex (.inr four) read)
    · obtain ⟨digits, value, fits⟩ := Integer.hex?_eq_some_iff.mp read
      have apart : ':' ∉ rest := fun member => single (List.mem_append_right _ member)
      exact .inr (.inl ⟨words, rest, port, rfl, apart, long, hex, straddles, digits, value.trans_le fits⟩)
    · simp only [long, if_true, failed]
      exact .inr (.inr rfl)

/-! ### Texts without signs -/

theorem exists_words {count : Nat} {t : Text} (length : t.length = 8 * count) :
    ∃ words, List.flatten words = t ∧ words.length = count ∧ ∀ word ∈ words, word.length = 8 := by
  induction count generalizing t with
  | zero => exact ⟨[], (List.length_eq_zero_iff.mp length).symm, rfl, nofun⟩
  | succ count ih =>
    obtain ⟨words, flat, counted, eights⟩ := ih (t := t.drop 8) (by rw [List.length_drop]; omega)
    refine ⟨t.take 8 :: words, ?_, congrArg (· + 1) counted, List.forall_mem_cons.mpr ⟨?_, eights⟩⟩
    · rw [List.flatten_cons, flat, List.take_append_drop]
    · rw [List.length_take]
      omega

/-- The texts of addresses are those that denote one and have no sign. -/
theorem isAddressText_iff {field : Text} : IsAddressText field ↔ (∃ address, Denotes field address) ∧ '+' ∉ field := by
  constructor
  · rintro ⟨ip, port, rfl, length, hex, digits, fits⟩
    have count : ip.length = 8 * 1 ∨ ip.length = 8 * 4 := length
    obtain ⟨words, rfl, counted, eights⟩ : ∃ words, List.flatten words = ip ∧
        (words.length = 1 ∨ words.length = 4) ∧ ∀ word ∈ words, word.length = 8 := by
      rcases count with one | four
      · obtain ⟨words, flat, counted, eights⟩ := exists_words one
        exact ⟨words, flat, .inl counted, eights⟩
      · obtain ⟨words, flat, counted, eights⟩ := exists_words four
        exact ⟨words, flat, .inr counted, eights⟩
    have read : Integer.hex? 0xffff port = some (hexValue port) := by
      rw [Integer.hex?_eq_some_iff, magnitude_of_notMem (not_plus_of_isHex digits)]
      exact ⟨digits, rfl, fits⟩
    have each : ∀ word ∈ words, IsHexWord word := by
      intro word member
      have nonempty : word ≠ [] := List.ne_nil_of_length_pos (by rw [eights word member]; decide)
      have own : IsHex word := ⟨nonempty, fun c within => hex.2 c (List.mem_flatten_of_mem member within)⟩
      exact ⟨eights word member, by rwa [magnitude_of_notMem (not_plus_of_isHex own)]⟩
    refine ⟨exists_denotes each counted read, ?_⟩
    rw [List.mem_append, List.mem_cons]
    exact fun member => member.elim (not_plus_of_isHex hex)
      fun behind => behind.elim (by decide) (not_plus_of_isHex digits)
  · rintro ⟨⟨address, words, port, rfl, spells⟩, unsigned⟩
    rw [List.mem_append, List.mem_cons, not_or, not_or] at unsigned
    have length := length_flatten spells.hex
    have count : words.length = 1 ∨ words.length = 4 := by
      have octets := address.ip.length_octets
      rw [spells.octets, length_flatMap_wordOctets] at octets
      omega
    have hex : IsHex words.flatten := by
      refine ⟨List.ne_nil_of_length_pos (by omega), fun c member => ?_⟩
      obtain ⟨word, among, within⟩ := List.mem_flatten.mp member
      have own : '+' ∉ word := fun sign => unsigned.1 (List.mem_flatten_of_mem among sign)
      exact (magnitude_of_notMem own ▸ (spells.hex word among).2).2 c within
    have same : magnitude port = port := magnitude_of_notMem unsigned.2.2
    have fits : hexValue (magnitude port) ≤ 0xffff := spells.value.trans_le spells.fits
    exact ⟨words.flatten, port, rfl, by omega, hex, same ▸ spells.digits, same ▸ fits⟩

/-! ### Reading -/

/-- Exactly the address texts are read, each as the address that it denotes. -/
theorem parse_eq_ok_iff {field : Text} {address : SocketAddress} :
    parseHexSocketAddress field = .ok address ↔ Denotes field address := by
  refine ⟨fun read => ?_, parse_of_denotes⟩
  rcases parse_cases field with ⟨other, denotes⟩ | splits | refused
  · rw [parse_of_denotes denotes] at read
    cases read
    exact denotes
  · rw [parse_of_splitsCharacter splits] at read
    cases read
  · rw [refused] at read
    cases read

theorem parse_eq_abort_iff {field : Text} : parseHexSocketAddress field = Outcome.abort ↔ SplitsCharacter field := by
  refine ⟨fun aborted => ?_, parse_of_splitsCharacter⟩
  rcases parse_cases field with ⟨address, denotes⟩ | splits | refused
  · rw [parse_of_denotes denotes] at aborted
    cases aborted
  · exact splits
  · rw [refused] at aborted
    cases aborted

/-- A text is read just if its words and its port are hexadecimal, each with a plus sign before it perhaps, and without
such signs just if it is the text of an address. The query ends if a word would end inside a character; every other text
is reported. -/
theorem address_texts_read (field : Text) :
    (∀ address, parseHexSocketAddress field = .ok address ↔ Denotes field address) ∧
      (IsAddressText field ↔ (∃ address, parseHexSocketAddress field = .ok address) ∧ '+' ∉ field) ∧
      (parseHexSocketAddress field = Outcome.abort ↔ SplitsCharacter field) ∧
      (parseHexSocketAddress field = .error (badAddress field) ↔
        (∀ address, ¬Denotes field address) ∧ ¬SplitsCharacter field) := by
  refine ⟨fun address => parse_eq_ok_iff, ?_, parse_eq_abort_iff, fun refused => ⟨fun address denotes => ?_, fun splits => ?_⟩,
    fun ⟨denies, whole⟩ => ?_⟩
  · rw [isAddressText_iff]
    simp only [parse_eq_ok_iff]
  · rw [parse_of_denotes denotes] at refused
    cases refused
  · rw [parse_of_splitsCharacter splits] at refused
    cases refused
  · rcases parse_cases field with ⟨address, denotes⟩ | splits | refused
    · exact absurd denotes (denies address)
    · exact absurd splits whole
    · exact refused

/-- A word with a sign is read, and a word cut inside a letter with an accent ends the query. -/
theorem malformed_addresses_mistaken :
    (¬IsAddressText "+100007F:0016".toList ∧
      parseHexSocketAddress "+100007F:0016".toList = .ok ⟨.v4 #v[127, 0, 0, 1], 22⟩) ∧
    ¬IsAddressText "0000000é00000000000000000000000:0050".toList ∧
      parseHexSocketAddress "0000000é00000000000000000000000:0050".toList = Outcome.abort := by
  have unread : parseHexSocketAddress "0000000é00000000000000000000000:0050".toList = Outcome.abort := rfl
  refine ⟨⟨fun text => (isAddressText_iff.mp text).2 (by decide), rfl⟩, fun text => ?_, unread⟩
  obtain ⟨address, denotes⟩ := (isAddressText_iff.mp text).1
  have read := parse_of_denotes denotes
  rw [unread] at read
  cases read

end Procfs
end HostProbe
