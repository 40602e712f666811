import HostProbe.MacOS.Records
import HostProbe.Proofs.Blocks
import HostProbe.Proofs.Overflow.Slices

/-! Traffic of the network interfaces, as a dump of routing messages tells it. Messages of all kinds follow each other,
each with its own length in front, and those about an interface hold its name and what it counted. -/
namespace HostProbe.MacOS

open Bytes (HoldsAt HoldsRecord layOut loadWithin? loadWithin?_eq)

/-! ### Layout -/

structure CountedInterface where
  name : String
  packetsReceived : UInt64
  errorsReceived : UInt64
  packetsSent : UInt64
  errorsSent : UInt64
  bytesReceived : UInt64
  bytesSent : UInt64
  dropped : UInt64
  named : (Utf8.encode name.toList).length < 256

namespace CountedInterface

variable (i : CountedInterface)

def nameBytes : Bytes := Utf8.encode i.name.toList

/-- Fields of a message of so many bytes; the name stands in the address of the link, with its length in front. -/
def fields (size : Nat) : List (Nat × Bytes) :=
  [(0, Bytes.ofNat 2 size), (3, Bytes.ofNat 1 0x12), (56, Bytes.ofNat 8 i.packetsReceived.toNat),
    (64, Bytes.ofNat 8 i.errorsReceived.toNat), (72, Bytes.ofNat 8 i.packetsSent.toNat),
    (80, Bytes.ofNat 8 i.errorsSent.toNat), (96, Bytes.ofNat 8 i.bytesReceived.toNat),
    (104, Bytes.ofNat 8 i.bytesSent.toNat), (128, Bytes.ofNat 8 i.dropped.toNat),
    (165, Bytes.ofNat 1 i.nameBytes.length), (168, i.nameBytes)]

def traffic : NetIoCounters where
  bytesSent := i.bytesSent.toNat
  bytesReceived := i.bytesReceived.toNat
  packetsSent := i.packetsSent.toNat
  packetsReceived := i.packetsReceived.toNat
  errorsIn := i.errorsReceived.toNat
  errorsOut := i.errorsSent.toNat
  dropsIn := i.dropped.toNat

end CountedInterface

/-- The message tells its own length, in 16 bits. -/
def SelfSized (message : Bytes) : Prop :=
  HoldsAt message 0 (Bytes.ofNat 2 message.length) ∧ message.length < 2 ^ 16

instance (message : Bytes) : Decidable (SelfSized message) := inferInstanceAs (Decidable (_ ∧ _))

/-- The bytes are messages, and the interfaces are those that they are about, in order. A message about something else
may have any length that it has room to tell. -/
inductive Dump : Bytes → List CountedInterface → Prop
  | none : Dump [] []
  | interface {message rest : Bytes} {others : List CountedInterface} (i : CountedInterface)
      (sized : SelfSized message) (record : HoldsRecord message 0 168 (i.fields message.length))
      (behind : Dump rest others) : Dump (message ++ rest) (i :: others)
  | other {message rest : Bytes} {others : List CountedInterface} (sized : SelfSized message)
      (different : message[3]? ≠ some 0x12) (behind : Dump rest others) : Dump (message ++ rest) others

/-! ### Messages -/

private theorem go_succ (fuel : Nat) (bytes : Bytes) : messages.go (fuel + 1) bytes =
    if 2 ≤ bytes.length ∧ Bytes.natAt bytes 0 2 ≠ 0 then
      bytes.take (Bytes.natAt bytes 0 2) :: messages.go fuel (bytes.drop (Bytes.natAt bytes 0 2))
    else [] := by
  rw [messages.go, Bytes.slice?_eq, Nat.zero_add]
  by_cases room : 2 ≤ bytes.length
  · rw [if_pos room]
    change (if Bytes.natAt bytes 0 2 = 0 then [] else _) = _
    by_cases empty : Bytes.natAt bytes 0 2 = 0
    · rw [if_pos empty, if_neg fun both => both.2 empty]
    · rw [if_neg empty, if_pos ⟨room, empty⟩]
      rfl
  · rw [if_neg room, if_neg fun both => room both.1]

private theorem go_nil (fuel : Nat) : messages.go fuel [] = [] := by
  cases fuel with
  | zero => rfl
  | succ fuel => rw [go_succ, if_neg fun both => absurd both.1 (by decide)]

/-- Every message takes at least one byte, so there is fuel enough with one unit for each byte. -/
private theorem go_congr {fuel more : Nat} {bytes : Bytes} (enough : bytes.length ≤ fuel)
    (plenty : bytes.length ≤ more) : messages.go fuel bytes = messages.go more bytes := by
  induction fuel generalizing more bytes with
  | zero => rw [List.length_eq_zero_iff.mp (Nat.le_zero.mp enough), go_nil, go_nil]
  | succ fuel ih =>
    cases more with
    | zero => rw [List.length_eq_zero_iff.mp (Nat.le_zero.mp plenty), go_nil, go_nil]
    | succ more =>
      rw [go_succ, go_succ]
      split
      case isTrue first =>
        have shorter : (bytes.drop (Bytes.natAt bytes 0 2)).length < bytes.length := by
          rw [List.length_drop]
          omega
        rw [ih (Nat.le_of_lt_succ (Nat.lt_of_lt_of_le shorter enough))
          (Nat.le_of_lt_succ (Nat.lt_of_lt_of_le shorter plenty))]
      case isFalse => rfl

/-- The first message is as long as it tells, or as there are bytes, unless it tells that it is empty. -/
theorem messages_eq (bytes : Bytes) : messages bytes =
    if 2 ≤ bytes.length ∧ Bytes.natAt bytes 0 2 ≠ 0 then
      bytes.take (Bytes.natAt bytes 0 2) :: messages (bytes.drop (Bytes.natAt bytes 0 2))
    else [] := by
  have behind : (bytes.drop (Bytes.natAt bytes 0 2)).length ≤ bytes.length := by
    rw [List.length_drop]
    exact Nat.sub_le _ _
  rw [messages, go_congr (Nat.le_refl _) (Nat.le_succ _), go_succ, go_congr behind (Nat.le_refl _), messages]

/-- A message that tells its own length is split off. -/
theorem SelfSized.messages_append {message : Bytes} (sized : SelfSized message) (rest : Bytes) :
    messages (message ++ rest) = message :: messages rest := by
  have told : Bytes.natAt (message ++ rest) 0 2 = message.length := (sized.1.append rest).natAt_ofNat sized.2
  have room := sized.1.length_le (List.cons_ne_nil _ _)
  rw [Bytes.length_ofNat, Nat.zero_add] at room
  have first : 2 ≤ (message ++ rest).length ∧ message.length ≠ 0 := by
    rw [List.length_append]
    omega
  rw [messages_eq, told, if_pos first, List.take_left, List.drop_left]

/-! ### Reading interfaces back -/

def trafficIn (message : Bytes) : NetIoCounters :=
  let counter (offset : Nat) : Nat := Bytes.natAt message (32 + offset) 8
  { bytesSent := counter 72, bytesReceived := counter 64, packetsSent := counter 40, packetsReceived := counter 24
    errorsIn := counter 32, errorsOut := counter 48, dropsIn := counter 96 }

theorem trafficIn_take (message : Bytes) : trafficIn (message.take interfaceSize) = trafficIn message := by
  have counter (offset : Nat) (within : 32 + offset + 8 ≤ interfaceSize) :
      Bytes.natAt (message.take interfaceSize) (32 + offset) 8 = Bytes.natAt message (32 + offset) 8 :=
    Bytes.natAt_take within
  simp only [trafficIn, counter 24 (by decide), counter 32 (by decide), counter 40 (by decide), counter 48 (by decide),
    counter 64 (by decide), counter 72 (by decide), counter 96 (by decide)]

/-- A message is about an interface if it has room for the counts and is of the type for that. It must then have room
for the name too, whose length one byte tells. -/
theorem interfaceTraffic?_eq (message : Bytes) : interfaceTraffic? message =
    if interfaceSize ≤ message.length ∧ Bytes.natAt message 3 1 = 0x12 then
      message[interfaceSize + 5]?.bind fun length =>
        (Bytes.slice? message (interfaceSize + 8) length.toNat).map fun name =>
          (Utf8.toString name, trafficIn message)
    else none := by
  have type : Bytes.natAt (message.take interfaceSize) 3 1 = Bytes.natAt message 3 1 := Bytes.natAt_take (by decide)
  rw [interfaceTraffic?, Bytes.slice?_eq, Nat.zero_add, List.drop_zero]
  by_cases room : interfaceSize ≤ message.length
  · rw [if_pos room]
    by_cases same : Bytes.natAt message 3 1 = 0x12
    · rw [if_pos ⟨room, same⟩, ← trafficIn_take, Bytes.slice?_one]
      simp only [Option.bind_eq_bind, Option.bind_some, type, same, ne_eq, not_true_eq_false, if_false, Option.bind_map]
      refine congrArg _ (funext fun length => ?_)
      rw [Function.comp_apply, Bytes.toNat_singleton]
      cases Bytes.slice? message (interfaceSize + 8) length.toNat with
      | none => rfl
      | some name => rfl
    · rw [if_neg fun both => same both.2]
      simp only [Option.bind_eq_bind, Option.bind_some, type]
      exact if_pos same
  · rw [if_neg room, if_neg fun both => room both.1]
    rfl

/-- A message about an interface gives its name and what it counted. -/
theorem interfaceTraffic?_of_record {message : Bytes} {i : CountedInterface}
    (record : HoldsRecord message 0 168 (i.fields message.length)) :
    interfaceTraffic? message = some (i.name, i.traffic) := by
  have room : 0 + 168 ≤ message.length := record.1
  have held {k place : Nat} {field : Bytes} (there : (i.fields message.length)[k]? = some (place, field)) :
      HoldsAt message place field := Nat.zero_add place ▸ record.2 _ (List.mem_of_getElem? there)
  have type : Bytes.natAt message 3 1 = 0x12 := (held (k := 1) rfl).natAt_ofNat (by decide)
  have told : Bytes.natAt message 165 1 = i.nameBytes.length := (held (k := 9) rfl).natAt_ofNat i.named
  have lengthByte : 165 < message.length := by omega
  rw [Bytes.natAt_one lengthByte] at told
  have there : HoldsAt message 168 i.nameBytes := held (k := 10) rfl
  have inside : 168 + i.nameBytes.length ≤ message.length := by
    by_cases unnamed : i.nameBytes = []
    · rw [unnamed, List.length_nil]
      omega
    · exact there.length_le unnamed
  have name : Bytes.slice? message 168 i.nameBytes.length = some i.nameBytes := by
    rw [Bytes.slice?_eq, if_pos inside, there.take]
  have received := (held (k := 2) rfl).natAt_ofNat i.packetsReceived.toNat_lt
  have errorsReceived := (held (k := 3) rfl).natAt_ofNat i.errorsReceived.toNat_lt
  have sent := (held (k := 4) rfl).natAt_ofNat i.packetsSent.toNat_lt
  have errorsSent := (held (k := 5) rfl).natAt_ofNat i.errorsSent.toNat_lt
  have bytesReceived := (held (k := 6) rfl).natAt_ofNat i.bytesReceived.toNat_lt
  have bytesSent := (held (k := 7) rfl).natAt_ofNat i.bytesSent.toNat_lt
  have dropped := (held (k := 8) rfl).natAt_ofNat i.dropped.toNat_lt
  have counts : trafficIn message = i.traffic := by
    simp only [trafficIn, Nat.reduceAdd, received, errorsReceived, sent, errorsSent, bytesReceived, bytesSent, dropped,
      CountedInterface.traffic]
  have whole : interfaceSize ≤ message.length := Nat.le_trans (by decide) room
  have lengthAt : message[interfaceSize + 5]? = some message[165] := List.getElem?_eq_getElem lengthByte
  rw [interfaceTraffic?_eq, if_pos ⟨whole, type⟩, counts, lengthAt, Option.bind_some, told]
  change (Bytes.slice? message 168 i.nameBytes.length).map _ = _
  rw [name, Option.map_some, CountedInterface.nameBytes, Utf8.toString_encode, String.ofList_toList]

theorem interfaceTraffic?_of_different {message : Bytes} (different : message[3]? ≠ some 0x12) :
    interfaceTraffic? message = none := by
  rw [interfaceTraffic?_eq, if_neg]
  rintro ⟨room, same⟩
  have within : 3 < message.length := Nat.lt_of_lt_of_le (by decide) room
  rw [Bytes.natAt_one within] at same
  rw [List.getElem?_eq_getElem within, ne_eq, Option.some.injEq] at different
  exact different (UInt8.toNat_inj.mp same)

theorem Dump.interfaces_eq {bytes : Bytes} {interfaces : List CountedInterface} (dump : Dump bytes interfaces) :
    (messages bytes).filterMap interfaceTraffic? = interfaces.map fun i => (i.name, i.traffic) := by
  induction dump with
  | none => rfl
  | interface i sized record behind ih =>
    rw [sized.messages_append, List.filterMap_cons_some (interfaceTraffic?_of_record record), ih, List.map_cons]
  | other sized different behind ih =>
    rw [sized.messages_append, List.filterMap_cons_none (interfaceTraffic?_of_different different), ih]

/-! ### The walk in machine words -/

def loadTraffic? (message : Bytes) : Outcome (Option (String × NetIoCounters)) := do
  match ← loadWithin? message 0 interfaceSize with
  | none => return none
  | some header =>
    if Bytes.natAt header 3 1 ≠ 0x12 then return none
    match message[← Word.add interfaceSize 5]? with
    | none => return none
    | some length =>
      let start ← Word.add interfaceSize 8
      let stop ← Word.add start length.toNat
      if message.length < stop then return none
      let name ← Bytes.between message start stop
      let counter (offset : Nat) : Nat := Bytes.natAt header (32 + offset) 8
      return some (Utf8.toString name, {
        bytesSent := counter 72, bytesReceived := counter 64, packetsSent := counter 40, packetsReceived := counter 24
        errorsIn := counter 32, errorsOut := counter 48, dropsIn := counter 96 })

/-- The traffic in the messages from an offset on, in at most so many steps. -/
def loadTraffics (bytes : Bytes) : Nat → Nat → Table NetIoCounters → Outcome (Table NetIoCounters)
  | 0, _, _ => Outcome.abort
  | steps + 1, offset, found => do
    match ← loadWithin? bytes offset 2 with
    | none => return found
    | some field =>
      if Bytes.toNat field = 0 then return found
      let stop ← Word.add offset (Bytes.toNat field)
      let message ← Bytes.between bytes offset (min stop bytes.length)
      match ← loadTraffic? message with
      | none => loadTraffics bytes steps stop found
      | some (name, traffic) => loadTraffics bytes steps stop (found.insert name traffic)

/-- Reading a message by positions never leaves it. -/
theorem loadTraffic?_eq {message : Bytes} (word : message.length < Word.span) :
    loadTraffic? message = .ok (interfaceTraffic? message) := by
  have type : Bytes.natAt (message.take interfaceSize) 3 1 = Bytes.natAt message 3 1 := Bytes.natAt_take (by decide)
  rw [loadTraffic?, interfaceTraffic?_eq, loadWithin?_eq word, Nat.zero_add, List.drop_zero]
  by_cases room : interfaceSize ≤ message.length
  · rw [if_pos room]
    change (if Bytes.natAt (message.take interfaceSize) 3 1 ≠ 0x12 then _ else _) = _
    rw [type]
    by_cases same : Bytes.natAt message 3 1 = 0x12
    · rw [if_neg (not_not_intro same), if_pos ⟨room, same⟩, Outcome.bind_of_ok (Word.add_of_lt (by decide))]
      cases message[interfaceSize + 5]? with
      | none => rfl
      | some length =>
        have octet : length.toNat < 2 ^ 8 := length.toNat_lt
        have word : Word.span = 2 ^ 64 := rfl
        have header : interfaceSize = 160 := rfl
        have start : Word.add interfaceSize 8 = .ok (interfaceSize + 8) := Word.add_of_lt (by omega)
        have stop : Word.add (interfaceSize + 8) length.toNat = .ok (interfaceSize + 8 + length.toNat) :=
          Word.add_of_lt (by omega)
        simp only [Outcome.bind_of_ok start, Outcome.bind_of_ok stop, Option.bind_some, Bytes.slice?_eq]
        by_cases inside : interfaceSize + 8 + length.toNat ≤ message.length
        · rw [if_neg (Nat.not_lt.mpr inside), if_pos inside,
            Outcome.bind_of_ok (Bytes.between_eq (Nat.le_add_right _ _) inside), Nat.add_sub_cancel_left,
            Option.map_some, ← trafficIn_take]
          rfl
        · rw [if_pos (Nat.not_le.mp inside), if_neg inside]
          rfl
    · rw [if_pos same, if_neg fun both => same both.2]
      rfl
  · rw [if_neg room, if_neg fun both => room both.1]
    rfl

/-- From any offset, the steps suffice if there are more of them than bytes from there on. -/
theorem loadTraffics_eq {bytes : Bytes} (held : bytes.length < 2 ^ 63) {steps offset : Nat} (begun : 0 < steps)
    (enough : bytes.length < offset + steps) (near : offset < 2 ^ 63 + 2 ^ 16) (found : Table NetIoCounters) :
    loadTraffics bytes steps offset found = .ok (((messages (bytes.drop offset)).filterMap interfaceTraffic?).foldl
      (fun t (k, v) => t.insert k v) found) := by
  have span : Word.span = 2 ^ 64 := rfl
  induction steps generalizing offset found with
  | zero => exact absurd begun (Nat.lt_irrefl 0)
  | succ steps ih =>
    rw [loadTraffics, loadWithin?_eq (by omega), messages_eq, Bytes.natAt_drop, Nat.add_zero, List.length_drop]
    by_cases room : offset + 2 ≤ bytes.length
    · rw [if_pos room]
      change (if Bytes.toNat ((bytes.drop offset).take 2) = 0 then _ else _) = _
      have told : Bytes.toNat ((bytes.drop offset).take 2) = Bytes.natAt bytes offset 2 := rfl
      have fits := Bytes.natAt_lt bytes offset 2
      rw [told]
      generalize Bytes.natAt bytes offset 2 = length at fits
      by_cases empty : length = 0
      · rw [if_pos empty, if_neg fun both => both.2 empty]
        rfl
      have message : (bytes.drop offset).take (min (offset + length) bytes.length - offset) =
          (bytes.drop offset).take length := by
        rw [List.take_eq_take_iff, List.length_drop]
        omega
      have short : ((bytes.drop offset).take length).length < Word.span := by
        rw [List.length_take, List.length_drop]
        omega
      rw [if_neg empty, if_pos ⟨by omega, empty⟩, Outcome.bind_of_ok (Word.add_of_lt (by omega)),
        Outcome.bind_of_ok (Bytes.between_eq (by omega) (Nat.min_le_right _ _)), message,
        Outcome.bind_of_ok (loadTraffic?_eq short), List.drop_drop]
      have further : bytes.length < offset + length + steps := by omega
      have onward := ih (by omega) further (by omega)
      cases about : interfaceTraffic? ((bytes.drop offset).take length) with
      | none =>
        rw [List.filterMap_cons_none about]
        exact onward found
      | some pair =>
        rw [List.filterMap_cons_some about]
        exact onward (found.insert pair.1 pair.2)
    · rw [if_neg room, if_neg fun both => room (by omega)]
      rfl

/-- Each interface that a dump has a message about is listed once, with what its last message tells, and nothing else
is. Whatever the bytes are, of which memory holds fewer than 2^63, the walk ends, and no read leaves them. -/
theorem interfaceTraffics_read (bytes : Bytes) :
    (∀ interfaces, Dump bytes interfaces → (interfaceTraffics bytes).Ordered ∧ ∀ name traffic,
      (name, traffic) ∈ interfaceTraffics bytes ↔
        Table.LastOf (interfaces.map fun i => (i.name, i.traffic)) name traffic) ∧
      (bytes.length < 2 ^ 63 →
        loadTraffics bytes (bytes.length + 1) 0 [] = .ok (interfaceTraffics bytes)) := by
  refine ⟨fun interfaces dump => ?_, fun held => ?_⟩
  · rw [interfaceTraffics, dump.interfaces_eq]
    exact ⟨Table.ordered_ofList _, fun _ _ => Table.mem_ofList⟩
  · exact loadTraffics_eq held (Nat.succ_pos _) (by omega) (by decide) []

/-- A message about an interface that ends with the interface's name. -/
def messageAbout (i : CountedInterface) : Bytes := layOut 168 (i.fields (168 + i.nameBytes.length))

def loopback : CountedInterface := ⟨"lo0", 7, 0, 7, 0, 100, 100, 0, by decide⟩

def ethernet : CountedInterface := ⟨"en0", 12, 1, 9, 2, 5678, 1234, 3, by decide⟩

def loopbackAgain : CountedInterface := { loopback with packetsSent := 8, bytesSent := 150 }

/-- Three messages about two interfaces, with a message about an address between them that is too short for counts, and
one with no room but for its length. -/
def twoInterfaces : Bytes :=
  messageAbout loopback ++ ([8, 0, 5, 0xc, 0, 0, 0, 0] ++ (messageAbout ethernet ++
    ([2, 0] ++ (messageAbout loopbackAgain ++ []))))

theorem dump_twoInterfaces : Dump twoInterfaces [loopback, ethernet, loopbackAgain] := by
  refine .interface loopback (by decide +kernel) (by decide +kernel) (.other (by decide) (by decide) ?_)
  refine .interface ethernet (by decide +kernel) (by decide +kernel) (.other (by decide) (by decide) ?_)
  exact .interface loopbackAgain (by decide +kernel) (by decide +kernel) .none

/-- Of two messages about one interface the later one counts. -/
theorem interfaceTraffics_read_twoInterfaces :
    Dump twoInterfaces [loopback, ethernet, loopbackAgain] ∧ (interfaceTraffics twoInterfaces).Ordered ∧
      ("lo0", loopbackAgain.traffic) ∈ interfaceTraffics twoInterfaces ∧ twoInterfaces.length < 2 ^ 63 ∧
      loadTraffics twoInterfaces (twoInterfaces.length + 1) 0 [] = .ok (interfaceTraffics twoInterfaces) := by
  obtain ⟨reads, loads⟩ := interfaceTraffics_read twoInterfaces
  obtain ⟨ordered, members⟩ := reads _ dump_twoInterfaces
  have short : twoInterfaces.length < 2 ^ 63 := by decide +kernel
  refine ⟨dump_twoInterfaces, ordered, (members _ _).mpr ?_, short, loads short⟩
  exact ⟨[("lo0", loopback.traffic), ("en0", ethernet.traffic)], [], rfl, nofun⟩

end HostProbe.MacOS
