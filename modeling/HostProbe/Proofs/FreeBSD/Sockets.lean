import HostProbe.Proofs.FreeBSD.ControlBlocks
import HostProbe.Proofs.FreeBSD.FileTables
import Mathlib.Data.List.Forall2
import Mathlib.Data.List.Nodup

/-! Sockets of a process, of which one table tells the ends and another the states. -/
namespace HostProbe.FreeBSD

open BSD (Placeholder Stores)

namespace SocketDescriptor

/-- Whether the socket's control block has a state. -/
def IsTcp (s : SocketDescriptor) : Prop := s.kind = .stream ∧ s.family ≠ .unix

def selected (filter : ConnectionFilter) (s : SocketDescriptor) : Bool :=
  filter.families.bits.toNat.testBit s.family.bit && filter.types.bits.toNat.testBit s.kind.bit

theorem selects_eq (filter : ConnectionFilter) (s : SocketDescriptor) :
    filter.selects s.family.set s.kind.set = s.selected filter := by
  rw [ConnectionFilter.selects, s.family.contains_set, s.kind.contains_set, selected]

/-- Connection of the socket where the states of control blocks are known. -/
def connection (pid : Pid) (states : List (Nat × Int)) (s : SocketDescriptor) : Connection where
  fd := s.number.toInt
  family := s.family.set
  kind := s.kind.set
  localEnd := some s.localEnd
  remoteEnd := (some s.remoteEnd).filter fun a => !BSD.isUnset a
  status := if s.kind.set == .stream && s.family.set != .unix then
    (((states.find? fun t => t.1 == s.controlBlock.toNat).map (·.2)).map ConnectionStatus.ofBsdState).getD .none
    else .none
  pid := some pid

/-- The record of a socket is read as the socket that it was written for, if the filter selects it. -/
theorem connectionOf?_bytes (pid : Pid) (filter : ConnectionFilter) (states : List (Nat × Int))
    (s : SocketDescriptor) : connectionOf? pid filter states ⟨s.bytes⟩ =
      if s.selected filter then some (s.connection pid states) else none := by
  have localEnd : BSD.address? inet6 (FileRecord.socketAddress ⟨s.bytes⟩ 48) = some s.localEnd := by
    rw [s.localStorage_eq]
    exact BSD.address?_of_stores (by decide) s.localStored
  have remoteEnd : BSD.address? inet6 (FileRecord.socketAddress ⟨s.bytes⟩ 176) = some s.remoteEnd := by
    rw [s.remoteStorage_eq]
    exact BSD.address?_of_stores (by decide) s.remoteStored
  rw [connectionOf?, s.family_eq, s.kind_eq, s.family.familyOf?_number, s.kind.socketTypeOf?_number, localEnd,
    remoteEnd, s.controlBlock?_eq, s.fd_eq, ← s.selects_eq]
  cases selects : filter.selects s.family.set s.kind.set with
  | true => simp [selects, connection]
  | false => simp [selects]

theorem isTcp_iff {s : SocketDescriptor} : s.IsTcp ↔ (s.kind.set == .stream && s.family.set != .unix) = true := by
  rw [IsTcp]
  cases s.kind <;> cases s.family <;> decide

end SocketDescriptor

/-! ### Listing -/

theorem Descriptor.listed_bytes (d : Descriptor) :
    (FileRecord.isDescriptor ⟨d.bytes⟩ && FileRecord.isSocket ⟨d.bytes⟩) = d.socket?.isSome := by
  cases d with
  | socket s =>
    have numbered : 0 ≤ s.number.toInt := Int32.le_iff_toInt_le.mp s.numbered
    rw [Descriptor.bytes, FileRecord.isDescriptor, FileRecord.isSocket, s.fd_eq, s.type_eq, decide_eq_true numbered]
    rfl
  | other o =>
    rw [Descriptor.bytes, FileRecord.isDescriptor, FileRecord.isSocket, o.fd_eq, o.type_eq]
    refine Bool.and_eq_false_iff.mpr (o.other.imp (fun negative => ?_) fun other => ?_)
    · exact decide_eq_false (Int.not_le.mpr (Int32.lt_iff_toInt_lt.mp negative))
    · exact beq_false_of_ne fun two => other (Int32.toInt_inj.mp two)

/-- Of a table's records, those of sockets that the filter selects are listed. -/
theorem connectionsIn_descriptors (descriptors : List Descriptor) (pid : Pid) (filter : ConnectionFilter)
    (states : List (Nat × Int)) : connectionsIn (descriptors.flatMap Descriptor.bytes) pid filter states =
      ((descriptors.filterMap Descriptor.socket?).filter (·.selected filter)).map (·.connection pid states) := by
  have listed : ((fun r : FileRecord => r.isDescriptor && r.isSocket) ∘ fun d : Descriptor => ⟨d.bytes⟩) =
      fun d => d.socket?.isSome := funext Descriptor.listed_bytes
  rw [connectionsIn, FileRecord.splits_iff.mp (Descriptor.splits descriptors), List.filter_map, List.filterMap_map,
    listed]
  induction descriptors with
  | nil => rfl
  | cons d others ih =>
    cases d with
    | socket s =>
      have socket : Descriptor.socket? (.socket s) = some s := rfl
      rw [List.filter_cons_of_pos rfl, List.filterMap_cons_some socket]
      cases selects : s.selected filter with
      | true =>
        have found : (connectionOf? pid filter states ∘ fun d : Descriptor => ⟨d.bytes⟩) (.socket s) =
            some (s.connection pid states) := (s.connectionOf?_bytes pid filter states).trans (if_pos selects)
        rw [List.filterMap_cons_some found, List.filter_cons_of_pos selects, List.map_cons, ih]
      | false =>
        have unselected : ¬s.selected filter = true := fun selected => Bool.false_ne_true (selects ▸ selected)
        have found : (connectionOf? pid filter states ∘ fun d : Descriptor => ⟨d.bytes⟩) (.socket s) = none :=
          (s.connectionOf?_bytes pid filter states).trans (if_neg unselected)
        rw [List.filterMap_cons_none found, List.filter_cons_of_neg unselected, ih]
    | other o =>
      have none : Descriptor.socket? (.other o) = none := rfl
      rw [List.filter_cons_of_neg Bool.false_ne_true, List.filterMap_cons_none none, ih]

namespace BlockTable

variable (table : BlockTable)

def states : List (Nat × Int) := (table.blocks.map fun b => (b.address.toNat, b.state.toInt)).reverse

/-- The state of a block is found under its address. -/
theorem find?_address {b : ControlBlock} (member : b ∈ table.blocks) :
    table.states.find? (fun t => t.1 == b.address.toNat) = some (b.address.toNat, b.state.toInt) := by
  cases found : table.states.find? (fun t => t.1 == b.address.toNat) with
  | none =>
    have there : (b.address.toNat, b.state.toInt) ∈ table.states :=
      List.mem_reverse.mpr (List.mem_map_of_mem member)
    exact absurd (beq_self_eq_true _) (List.find?_eq_none.mp found _ there)
  | some other =>
    obtain ⟨b', member', rfl⟩ := List.mem_map.mp (List.mem_reverse.mp (List.mem_of_find?_eq_some found))
    have same : b'.address = b.address :=
      UInt64.toNat_inj.mp (eq_of_beq (List.find?_some (p := fun t : Nat × Int => t.1 == b.address.toNat) found))
    rw [List.inj_on_of_nodup_map table.distinct member' member same]

/-- Under an address without a block nothing is found. -/
theorem find?_eq_none {address : UInt64} (absent : ∀ b ∈ table.blocks, b.address ≠ address) :
    table.states.find? (fun t => t.1 == address.toNat) = none := by
  refine List.find?_eq_none.mpr fun t member found => ?_
  obtain ⟨b, there, rfl⟩ := List.mem_map.mp (List.mem_reverse.mp member)
  exact absent b there (UInt64.toNat_inj.mp (eq_of_beq found))

end BlockTable

def blockStates : List (Int × ConnectionStatus) :=
  [(0, .close), (1, .listen), (2, .synSent), (3, .synReceived), (4, .established), (5, .closeWait), (6, .finWait1),
    (7, .closing), (8, .lastAck), (9, .finWait2), (10, .timeWait)]

theorem ofBsdState_eq (state : Int) : ConnectionStatus.ofBsdState state = (blockStates.lookup state).getD .none := by
  match state with
  | .ofNat 0 | .ofNat 1 | .ofNat 2 | .ofNat 3 | .ofNat 4 | .ofNat 5 | .ofNat 6 | .ofNat 7 | .ofNat 8 | .ofNat 9
  | .ofNat 10 => rfl
  | .ofNat (_ + 11) => rfl
  | .negSucc _ => rfl

/-- What a connection tells of a socket. The states of the table are those of sockets of the internet's families that
are streams. -/
structure Tells (table : BlockTable) (pid : Pid) (s : SocketDescriptor) (c : Connection) : Prop where
  fd : c.fd = s.number.toInt
  family : c.family = s.family.set
  kind : c.kind = s.kind.set
  localEnd : c.localEnd = some s.localEnd
  remoteEnd : Placeholder s.remoteEnd ∧ c.remoteEnd = none ∨ ¬Placeholder s.remoteEnd ∧ c.remoteEnd = some s.remoteEnd
  state : s.IsTcp → ∀ b ∈ table.blocks, b.address = s.controlBlock →
    c.status = (blockStates.lookup b.state.toInt).getD .none
  stateless : (s.IsTcp → ∀ b ∈ table.blocks, b.address ≠ s.controlBlock) → c.status = .none
  pid : c.pid = some pid

/-- What is joined from the two tables tells of the socket what it should. -/
theorem tells_connection (table : BlockTable) (pid : Pid) (s : SocketDescriptor) : Tells table pid s
    (s.connection pid table.states) where
  fd := rfl
  family := rfl
  kind := rfl
  localEnd := rfl
  remoteEnd := by
    cases unset : BSD.isUnset s.remoteEnd with
    | true => exact .inl ⟨BSD.isUnset_iff.mp unset, by simp [SocketDescriptor.connection, unset]⟩
    | false =>
      refine .inr ⟨fun placeholder => ?_, by simp [SocketDescriptor.connection, unset]⟩
      exact Bool.false_ne_true (unset ▸ BSD.isUnset_iff.mpr placeholder)
  state tcp b member same := by
    rw [SocketDescriptor.connection, if_pos (SocketDescriptor.isTcp_iff.mp tcp), ← same, table.find?_address member]
    exact ofBsdState_eq b.state.toInt
  stateless unknown := by
    by_cases tcp : s.IsTcp
    · rw [SocketDescriptor.connection, if_pos (SocketDescriptor.isTcp_iff.mp tcp), table.find?_eq_none (unknown tcp)]
      rfl
    · exact if_neg (mt SocketDescriptor.isTcp_iff.mpr tcp)
  pid := rfl

/-- Of a process's descriptors, the sockets that the filter selects are listed in order, each with its ends and its
state. Whatever the bytes of a table are, its records are consecutive and not empty up to where no size is told. -/
theorem sockets_listed :
    (∀ (table : BlockTable) (descriptors : List Descriptor) (pid : Pid) (filter : ConnectionFilter),
      ∃ states, tcpStates table.bytes = .ok states ∧
        List.Forall₂ (Tells table pid) ((descriptors.filterMap Descriptor.socket?).filter (·.selected filter))
          (connectionsIn (descriptors.flatMap Descriptor.bytes) pid filter states)) ∧
      ∀ bytes : Bytes, ∃ rest, bytes = ((FileRecord.split bytes).map FileRecord.bytes).flatten ++ rest ∧
        (∀ r ∈ FileRecord.split bytes, r.bytes ≠ []) ∧ FileRecord.told rest ≤ 0 := by
  refine ⟨fun table descriptors pid filter => ?_, fun bytes => (FileRecord.splits_iff.mpr rfl).consecutive⟩
  refine ⟨_, table.tcpStates_bytes, ?_⟩
  rw [connectionsIn_descriptors, List.forall₂_map_right_iff]
  exact List.forall₂_same.mpr fun s _ => tells_connection table pid s

def listening : SocketDescriptor where
  number := 3
  family := .inet
  kind := .stream
  localEnd := .inet ⟨.v4 #v[10, 0, 0, 1], 22⟩
  remoteEnd := .inet ⟨.v4 (Vector.replicate 4 0), 0⟩
  controlBlock := 0xc0de
  localStorage := ⟨⟨[16, 2, 0, 22, 10, 0, 0, 1] ++ List.replicate 120 0⟩, rfl⟩
  remoteStorage := ⟨⟨[16, 2] ++ List.replicate 126 0⟩, rfl⟩
  status := Vector.replicate 24 0
  protocol := Vector.replicate 4 0
  rest := []
  numbered := by decide
  localStored := .v4 16 22 #v[10, 0, 0, 1] (List.replicate 120 0)
  remoteStored := Stores.v4 16 0 (Vector.replicate 4 0) (List.replicate 120 0)
  fits := by decide

def listeningBlock : BlockTable where
  leading := List.replicate 16 0
  blocks := [⟨0xc0de, 1, 32, Vector.replicate 16 0, Vector.replicate 160 0, []⟩]
  trailing := []
  longer := by decide
  closing := by decide
  distinct := by decide
  fits := by
    rw [List.flatMap_singleton, ControlBlock.length_bytes]
    decide

/-- The listening socket, with no far end and its state. -/
theorem sockets_listed_listening : ∃ states, tcpStates listeningBlock.bytes = .ok states ∧
    connectionsIn ([Descriptor.socket listening].flatMap Descriptor.bytes) 7 .all states =
      [⟨3, .inet, .stream, some (.inet ⟨.v4 #v[10, 0, 0, 1], 22⟩), none, .listen, some 7⟩] := by
  obtain ⟨states, read, listed⟩ := sockets_listed.1 listeningBlock [.socket listening] 7 .all
  refine ⟨states, read, ?_⟩
  have selected : ([Descriptor.socket listening].filterMap Descriptor.socket?).filter (·.selected .all) =
      [listening] := rfl
  rw [selected] at listed
  generalize connectionsIn ([Descriptor.socket listening].flatMap Descriptor.bytes) 7 .all states = found at listed ⊢
  obtain _ | ⟨tells, _ | _⟩ := listed
  have unset : _ = none := (tells.remoteEnd.resolve_right fun set => set.1 .v4).2
  have state := tells.state ⟨rfl, nofun⟩ _ List.mem_cons_self rfl
  exact congrArg (List.cons · [])
    (Connection.ext tells.fd tells.family tells.kind tells.localEnd unset state tells.pid)

end HostProbe.FreeBSD
