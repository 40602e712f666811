import HostProbe.Proofs.Fields
import HostProbe.Proofs.Procfs.SocketAddresses
import HostProbe.Proofs.Text.Decimal
import Mathlib.Data.List.Forall2

/-! Tables of internet sockets as the kernel prints them: reading a table gives back its sockets, whatever their addresses,
ports, states and inodes are and whatever stands in the other columns. -/
namespace HostProbe

namespace Procfs

open Integer (hexValue magnitude toHexDigits isHex_toHexDigits magnitude_toHexDigits hex?_toHexDigits)

/-! ### Printed tables -/

structure Endpoint where
  ip : IpAddress
  port : UInt16

namespace Endpoint

def address (e : Endpoint) : SocketAddress := ⟨e.ip, e.port.toNat⟩

/-- Octets by fours, as numbers of a machine that keeps the least significant octet first. -/
def nativeWords : Bytes → List Nat
  | a :: b :: c :: d :: rest => Bytes.toNat [a, b, c, d] :: nativeWords rest
  | _ => []

def text (e : Endpoint) : Text :=
  (nativeWords e.ip.octets).flatMap (toHexDigits 8) ++ ':' :: toHexDigits 4 e.port.toNat

/-- No address or every address, and no port. -/
def IsPlaceholder (e : Endpoint) : Prop := (∀ octet ∈ e.ip.octets, octet = 0) ∧ e.port = 0

end Endpoint

abbrev Column := { t : Text // t ≠ [] ∧ ∀ c ∈ t, isBlank c = false }

structure InetRow where
  slot : Column
  localEnd : Endpoint
  remoteEnd : Endpoint
  state : UInt8
  queues : Column
  timer : Column
  retransmits : Column
  owner : Column
  timeout : Column
  inode : UInt64
  /-- Columns behind the tenth. -/
  others : List Column
  /-- Spaces before the first column, between columns beyond the one that has to be there, and behind the last. -/
  indent : Nat
  gaps : Nat → Nat
  trail : Nat

namespace InetRow

def columns (r : InetRow) : List Text :=
  [r.slot.1, r.localEnd.text, r.remoteEnd.text, toHexDigits 2 r.state.toNat, r.queues.1, r.timer.1, r.retransmits.1,
    r.owner.1, r.timeout.1, Nat.toDigits 10 r.inode.toNat] ++ r.others.map (·.1)

def line (r : InetRow) : Text :=
  List.replicate r.indent ' ' ++ (Text.aligned r.gaps r.columns ++ List.replicate r.trail ' ')

/-- Numbers by which the kernel tells the state of a stream. A connection that is being accepted has two: 12 before a
socket is made for it, and 3 from then on. -/
def streamStates : List (Nat × ConnectionStatus) :=
  [(1, .established), (2, .synSent), (3, .synReceived), (4, .finWait1), (5, .finWait2), (6, .timeWait), (7, .close),
    (8, .closeWait), (9, .lastAck), (10, .listen), (11, .closing), (12, .synReceived)]

/-- The socket tells what the row says. Numbers of no state count as none. -/
structure Tells (kind : SocketTypeSet) (r : InetRow) (s : InetSocket) : Prop where
  localEnd : s.localEnd = r.localEnd.address
  absent : s.remoteEnd = none ↔ r.remoteEnd.IsPlaceholder
  present : ∀ address ∈ s.remoteEnd, address = r.remoteEnd.address
  stream : kind = .stream → s.status = (streamStates.lookup r.state.toNat).getD .none
  other : kind ≠ .stream → s.status = .none
  inode : s.inode = r.inode.toNat

def listening : InetRow where
  slot := ⟨"0:".toList, by decide⟩
  localEnd := ⟨.v4 #v[127, 0, 0, 1], 3306⟩
  remoteEnd := ⟨.v4 #v[0, 0, 0, 0], 0⟩
  state := 10
  queues := ⟨"00000000:00000000".toList, by decide⟩
  timer := ⟨"00:00000000".toList, by decide⟩
  retransmits := ⟨"00000000".toList, by decide⟩
  owner := ⟨"999".toList, by decide⟩
  timeout := ⟨"0".toList, by decide⟩
  inode := 36125
  others := [⟨"1".toList, by decide⟩]
  indent := 3
  gaps i := if i = 6 then 2 else if i = 7 then 7 else 0
  trail := 1

example : listening.line =
    ("   0: 0100007F:0CEA 00000000:0000 0A 00000000:00000000 00:00000000 00000000   999        0 36125 1 ").toList := by
  decide +kernel

end InetRow

def inetTable (header : Text) (rows : List InetRow) : Text :=
  (header :: rows.map InetRow.line).flatMap fun line => line ++ ['\n']

/-! ### Columns -/

/-- Reading the printed words gives the octets. -/
theorem flatMap_nativeWords {count : Nat} {octets : Bytes} (length : octets.length = 4 * count) :
    ((Endpoint.nativeWords octets).map (toHexDigits 8)).flatMap wordOctets = octets := by
  induction count generalizing octets with
  | zero =>
    rw [List.length_eq_zero_iff.mp length]
    rfl
  | succ count ih =>
    match octets, length with
    | a :: b :: c :: d :: rest, length =>
      have others : rest.length = 4 * count := by
        simp only [List.length_cons] at length
        omega
      have small : Bytes.toNat [a, b, c, d] < 256 ^ 4 := Bytes.toNat_lt [a, b, c, d]
      have word : wordOctets (toHexDigits 8 (Bytes.toNat [a, b, c, d])) = [a, b, c, d] := by
        rw [wordOctets, magnitude_toHexDigits (by decide), Integer.hexValue_toHexDigits, Nat.mod_eq_of_lt (small.trans_eq (by decide))]
        exact Bytes.ofNat_toNat [a, b, c, d]
      rw [Endpoint.nativeWords, List.map_cons, List.flatMap_cons, word, ih others]
      rfl

theorem Endpoint.isPlaceholder_iff (e : Endpoint) :
    e.IsPlaceholder ↔ (e.ip.isUnspecified && e.address.port == 0) = true := by
  rw [Bool.and_eq_true, IpAddress.isUnspecified, List.all_eq_true, beq_iff_eq]
  simp [IsPlaceholder, address, ← UInt16.toNat_inj]

/-- The printed end denotes its address. -/
theorem denotes_text (e : Endpoint) : Denotes e.text e.address := by
  have fits : e.port.toNat < 65536 := e.port.toNat_lt
  refine ⟨(Endpoint.nativeWords e.ip.octets).map (toHexDigits 8), toHexDigits 4 e.port.toNat, ?_, ?_, ?_, ?_, ?_, ?_⟩
  · rw [Endpoint.text, List.flatMap_def]
  · rintro word member
    obtain ⟨n, -, rfl⟩ := List.mem_map.mp member
    refine ⟨Integer.length_toHexDigits 8 n, ?_⟩
    rw [magnitude_toHexDigits (by decide)]
    exact isHex_toHexDigits (by decide) n
  · have length : e.ip.octets.length = 4 * 1 ∨ e.ip.octets.length = 4 * 4 := e.ip.length_octets
    exact length.elim (fun one => (flatMap_nativeWords one).symm) fun four => (flatMap_nativeWords four).symm
  · rw [magnitude_toHexDigits (by decide)]
    exact isHex_toHexDigits (by decide) _
  · rw [magnitude_toHexDigits (by decide), Integer.hexValue_toHexDigits]
    exact Nat.mod_eq_of_lt fits
  · exact Nat.le_of_lt_succ fits

namespace InetRow

variable (r : InetRow)

theorem columns_unbroken : ∀ column ∈ r.columns, column ≠ [] ∧ ∀ c ∈ column, isBlank c = false := by
  have ends (e : Endpoint) : e.text ≠ [] ∧ ∀ c ∈ e.text, isBlank c = false := by
    refine ⟨List.append_ne_nil_of_right_ne_nil _ (List.cons_ne_nil _ _), fun c member => ?_⟩
    rw [Endpoint.text, List.mem_append, List.mem_flatMap, List.mem_cons] at member
    rcases member with ⟨n, -, within⟩ | rfl | within
    · exact (Integer.unbroken_toHexDigits (by decide) n).2 c within
    · decide
    · exact (Integer.unbroken_toHexDigits (by decide) _).2 c within
  intro column member
  rw [columns, List.mem_append, List.mem_map] at member
  rcases member with among | ⟨other, -, rfl⟩
  · simp only [List.mem_cons, List.not_mem_nil, or_false] at among
    rcases among with rfl | rfl | rfl | rfl | rfl | rfl | rfl | rfl | rfl | rfl
    · exact r.slot.2
    · exact ends r.localEnd
    · exact ends r.remoteEnd
    · exact Integer.unbroken_toHexDigits (by decide) _
    · exact r.queues.2
    · exact r.timer.2
    · exact r.retransmits.2
    · exact r.owner.2
    · exact r.timeout.2
    · exact ⟨Nat.toDigits_ne_nil, Integer.unbroken_toDigits _⟩
  · exact other.2

theorem words_line : Text.words r.line = r.columns := by
  rw [line, Text.words_blanks, Text.words_append_blanks, Text.words_aligned r.columns_unbroken]

theorem single_line : '\n' ∉ r.line := by
  intro member
  rw [line, List.mem_append, List.mem_append, List.mem_replicate, List.mem_replicate] at member
  rcases member with ⟨-, space⟩ | within | ⟨-, space⟩
  · cases space
  · rcases Text.mem_aligned within with space | ⟨column, among, within⟩
    · cases space
    · exact absurd ((r.columns_unbroken column among).2 _ within) (by decide)
  · cases space

def socket (kind : SocketTypeSet) (r : InetRow) : InetSocket where
  localEnd := r.localEnd.address
  remoteEnd := if r.remoteEnd.ip.isUnspecified && r.remoteEnd.address.port == 0 then none else some r.remoteEnd.address
  status := if kind = .stream then .ofLinuxState r.state.toNat else .none
  inode := r.inode.toNat

theorem ofLinuxState_eq (state : Nat) :
    ConnectionStatus.ofLinuxState state = (streamStates.lookup state).getD .none := by
  match state with
  | 0 | 1 | 2 | 3 | 4 | 5 | 6 | 7 | 8 | 9 | 10 | 11 | 12 => rfl
  | _ + 13 => rfl

/-- What is read from a row tells what the row says. -/
theorem tells_socket (kind : SocketTypeSet) : r.Tells kind (r.socket kind) where
  localEnd := rfl
  absent := by
    rw [socket, ite_eq_left_iff, Bool.not_eq_true, imp_iff_not_or, Bool.not_eq_false, ← r.remoteEnd.isPlaceholder_iff]
    exact or_iff_left nofun
  present address member := by
    rw [socket, Option.mem_def] at member
    split at member
    · cases member
    · exact (Option.some.inj member).symm
  stream same := (if_pos same).trans (ofLinuxState_eq r.state.toNat)
  other different := if_neg different
  inode := rfl

/-- A printed row is read. -/
theorem parseInetLine_line (kind : SocketTypeSet) :
    parseInetLine kind (Text.dropReturn r.line) = .ok (some (r.socket kind)) := by
  have fields : Text.words (Text.dropReturn r.line) = r.columns := by rw [Text.words_dropReturn, words_line]
  have enough : ¬r.columns.length < 10 := by simp [columns]
  have ends (e : Endpoint) : parseHexSocketAddress e.text = .ok e.address := parse_of_denotes (denotes_text e)
  have state : Integer.hex? 255 (toHexDigits 2 r.state.toNat) = some r.state.toNat :=
    hex?_toHexDigits (by decide) r.state.toNat_lt (Nat.le_of_lt_succ r.state.toNat_lt)
  have inode : Integer.word? (Nat.toDigits 10 r.inode.toNat) = some r.inode.toNat :=
    Integer.word?_toDigits (Nat.le_of_lt_succ r.inode.toNat_lt)
  have second : r.columns.getD 1 [] = r.localEnd.text := rfl
  have third : r.columns.getD 2 [] = r.remoteEnd.text := rfl
  have fourth : r.columns.getD 3 [] = toHexDigits 2 r.state.toNat := rfl
  have tenth : r.columns.getD 9 [] = Nat.toDigits 10 r.inode.toNat := rfl
  simp only [parseInetLine, fields, if_neg enough, second, third, fourth, tenth, ends, state, inode]
  rfl

end InetRow

/-- Reading a printed table gives a socket for each row, in order. -/
theorem inetTable_read {header : Text} (single : '\n' ∉ header) (rows : List InetRow) (kind : SocketTypeSet) :
    ∃ sockets, parseNetInet (inetTable header rows) kind = .ok sockets ∧
      List.Forall₂ (InetRow.Tells kind) rows sockets := by
  have lines : Text.lines (inetTable header rows) = (header :: rows.map InetRow.line).map Text.dropReturn := by
    refine Text.lines_flatMap (List.forall_mem_cons.mpr ⟨single, ?_⟩)
    intro line member
    obtain ⟨r, -, rfl⟩ := List.mem_map.mp member
    exact r.single_line
  have parsed : ((rows.map InetRow.line).map Text.dropReturn).mapM (parseInetLine kind) =
      .ok (rows.map fun r => some (r.socket kind)) := by
    clear lines
    induction rows with
    | nil => rfl
    | cons r rows ih =>
      rw [List.map_cons, List.map_cons, List.mapM_cons, r.parseInetLine_line, ih]
      rfl
  refine ⟨rows.map (InetRow.socket kind), ?_, ?_⟩
  · rw [parseNetInet, lines, List.map_cons, List.drop_one, List.tail_cons, parsed]
    exact congrArg Except.ok (by simp [List.filterMap_map])
  · rw [List.forall₂_map_right_iff, List.forall₂_same]
    exact fun r _ => r.tells_socket kind

/-- The listening server, whose far end is none. -/
theorem inetTable_read_listening :
    '\n' ∉ "  sl  local_address rem_address".toList ∧
      parseNetInet (inetTable "  sl  local_address rem_address".toList [.listening]) .stream =
        .ok [⟨⟨.v4 #v[127, 0, 0, 1], 3306⟩, none, .listen, 36125⟩] := by
  have single : '\n' ∉ "  sl  local_address rem_address".toList := by decide +kernel
  obtain ⟨sockets, read, told⟩ := inetTable_read single [.listening] .stream
  refine ⟨single, read.trans (congrArg Except.ok ?_)⟩
  obtain _ | ⟨tells, _ | _⟩ := told
  have unset : InetRow.listening.remoteEnd.IsPlaceholder := ⟨by decide +kernel, rfl⟩
  exact congrArg (List.cons · [])
    (InetSocket.ext tells.localEnd (tells.absent.mpr unset) (tells.stream rfl) tells.inode)

end Procfs
end HostProbe
