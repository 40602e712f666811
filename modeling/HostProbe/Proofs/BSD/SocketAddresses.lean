import HostProbe.BSD.Network
import HostProbe.Proofs.Fields
import HostProbe.Proofs.Overflow.Slices
import HostProbe.Proofs.Text.Utf8
import HostProbe.Record.Network

/-! Socket addresses as kernels lay them out, and reading them back. The bytes may be any number, whatever length and
family they tell: no read leaves them, and just where they are too few for their family there is no address. -/
namespace HostProbe.BSD

open Bytes (HoldsAt between loadText)

def portOctets (port : UInt16) : Bytes := [UInt8.ofNat (port.toNat / 256), UInt8.ofNat port.toNat]

@[simp] theorem length_portOctets (port : UInt16) : (portOctets port).length = 2 := rfl

theorem toNatBig_portOctets (port : UInt16) : Bytes.toNatBig (portOctets port) = port.toNat := by
  have word : port.toNat < 65536 := port.toNat_lt
  simp only [Bytes.toNatBig, portOctets, List.foldl_cons, List.foldl_nil, UInt8.toNat_ofNat']
  omega

/-- What ends a local socket's path: a zero byte, the end of the bytes, or the length that the address tells. -/
def EndsPath (length : UInt8) (path rest : Bytes) : Prop :=
  rest = [] ∨ rest.head? = some 0 ∨ length.toNat = 2 + path.length

/-- The bytes store the address: its length and its family, then the family's payload, then anything. Only a path
depends on the length told; systems differ in the number of the second internet family. -/
inductive Stores (inet6 : UInt8) : Bytes → Address → Prop
  | v4 (length : UInt8) (port : UInt16) (octets : Vector UInt8 4) (rest : Bytes) :
      Stores inet6 [[length, 2], portOctets port, octets.toList, rest].flatten (.inet ⟨.v4 octets, port.toNat⟩)
  | v6 (length : UInt8) (port : UInt16) (flow : Vector UInt8 4) (octets : Vector UInt8 16) (rest : Bytes) :
      Stores inet6 [[length, inet6], portOctets port, flow.toList, octets.toList, rest].flatten
        (.inet ⟨.v6 octets, port.toNat⟩)
  | unix (length : UInt8) (path : String) (rest : Bytes) (free : '\x00' ∉ path.toList)
      (within : 2 + (Utf8.encode path.toList).length ≤ length.toNat)
      (ends : EndsPath length (Utf8.encode path.toList) rest) :
      Stores inet6 [[length, 1], Utf8.encode path.toList, rest].flatten (.unix path)

section reading

variable {inet6 : UInt8}

/-- Within the length that its address tells, a path is read up to its end. -/
private theorem untilNul_path {length : UInt8} {path rest : Bytes} (free : 0 ∉ path)
    (within : 2 + path.length ≤ length.toNat) (ends : EndsPath length path rest) :
    Bytes.untilNul ((path ++ rest).take (length.toNat - 2)) = path := by
  have nonzero := Bytes.forall_bne_zero free
  have stop : (rest.take (length.toNat - 2 - path.length)).takeWhile (· != 0) = [] := by
    rcases ends with rfl | zero | told
    · rw [List.take_nil, List.takeWhile_nil]
    · obtain ⟨others, rfl⟩ := List.head?_eq_some_iff.mp zero
      cases length.toNat - 2 - path.length <;> rfl
    · have spent : length.toNat - 2 - path.length = 0 := by omega
      rw [spent, List.take_zero, List.takeWhile_nil]
  rw [Bytes.untilNul, List.take_append, List.take_of_length_le (by omega), List.takeWhile_append_of_pos nonzero, stop,
    List.append_nil]

/-- A path is read up to its end, also if its bytes are not those of a text. -/
theorem address?_of_path (other : inet6 ≠ 2 ∧ inet6 ≠ 1) {length : UInt8} {path rest : Bytes} (free : 0 ∉ path)
    (within : 2 + path.length ≤ length.toNat) (ends : EndsPath length path rest) :
    address? inet6.toNat [[length, 1], path, rest].flatten = some (.unix (Utf8.toString path)) := by
  have notUnix : 1 ≠ inet6.toNat := fun one => other.2 (UInt8.toNat_inj.mp one.symm)
  have long : max length.toNat 2 = length.toNat - 2 + 2 := by omega
  have cut : (([[length, 1], path, rest].flatten.take (max length.toNat 2)).drop 2) =
      (path ++ rest).take (length.toNat - 2) := by
    rw [long]
    simp
  change (if 1 = inet6.toNat then _ else some (Address.unix (unixPath _))) = _
  rw [if_neg notUnix, unixPath, cut, Bytes.cString, untilNul_path free within ends]

/-- An address that is stored is read back. -/
theorem address?_of_stores (other : inet6 ≠ 2 ∧ inet6 ≠ 1) {bytes : Bytes} {address : Address}
    (stores : Stores inet6 bytes address) : address? inet6.toNat bytes = some address := by
  have notInet : inet6.toNat ≠ 2 := fun two => other.1 (UInt8.toNat_inj.mp two)
  cases stores with
  | v4 length port octets rest =>
    have sized : [[length, 2], portOctets port, octets.toList, rest].map List.length = [2, 2, 4, rest.length] := by
      simp
    have portHeld : HoldsAt _ 2 (portOctets port) := Bytes.holdsAt_flatten sized (i := 1) rfl
    have octetsHeld : HoldsAt _ 4 octets.toList := Bytes.holdsAt_flatten sized (i := 2) rfl
    change (do
      let ip ← IpAddress.v4? ((Bytes.slice? _ 4 4).getD [])
      return Address.inet { ip, port := Bytes.toNatBig (← Bytes.slice? _ 2 2) }) = _
    rw [octetsHeld.slice? octets.length_toList (by decide), portHeld.slice? (length_portOctets port) (by decide),
      Option.getD_some, IpAddress.v4?_octets]
    exact congrArg (fun port => some (Address.inet ⟨.v4 octets, port⟩)) (toNatBig_portOctets port)
  | v6 length port flow octets rest =>
    have sized : [[length, inet6], portOctets port, flow.toList, octets.toList, rest].map List.length =
        [2, 2, 4, 16, rest.length] := by simp
    have portHeld : HoldsAt _ 2 (portOctets port) := Bytes.holdsAt_flatten sized (i := 1) rfl
    have octetsHeld : HoldsAt _ 8 octets.toList := Bytes.holdsAt_flatten sized (i := 3) rfl
    change (if inet6.toNat = 2 then _ else if inet6.toNat = inet6.toNat then (do
      let ip ← IpAddress.v6? ((Bytes.slice? _ 8 16).getD [])
      return Address.inet { ip, port := Bytes.toNatBig (← Bytes.slice? _ 2 2) }) else _) = _
    rw [if_neg notInet, if_pos rfl, octetsHeld.slice? octets.length_toList (by decide),
      portHeld.slice? (length_portOctets port) (by decide), Option.getD_some, IpAddress.v6?_octets]
    exact congrArg (fun port => some (Address.inet ⟨.v6 octets, port⟩)) (toNatBig_portOctets port)
  | unix length path rest free within ends =>
    rw [address?_of_path other (Utf8.zero_notMem_encode free) within ends, Utf8.toString_encode, String.ofList_toList]

end reading

/-! ### Reading within bounds -/

/-- The byte at a position, which must be one of those that there are. -/
def loadByte (bytes : Bytes) (i : Nat) : Outcome UInt8 :=
  match bytes[i]? with
  | some b => .ok b
  | none => Outcome.abort

/-- The number moved between two bounds, which must not be in the wrong order. -/
def clamp (n low high : Nat) : Outcome Nat := if low ≤ high then .ok (min (max n low) high) else Outcome.abort

/-- The internet address with the octets and the port, if neither is cut off. -/
def inetAddress? (ip : Option IpAddress) (bytes : Bytes) : Option Address := do
  let ip ← ip
  return .inet { ip, port := Bytes.toNatBig (← Bytes.slice? bytes 2 2) }

/-- Path of a local socket's address, which the length told ends if it lies between the family and the last byte. -/
def loadPath (bytes : Bytes) : Outcome String := do
  let told ← loadByte bytes 0
  let stop ← clamp told.toNat 2 bytes.length
  loadText ((← between bytes 0 stop).drop 2)

/-- The address as it is read step by step, where to leave the bytes is an abort. -/
def loadAddress? (inet6 : Nat) (bytes : Bytes) : Outcome (Option Address) :=
  match bytes[1]? with
  | none => return none
  | some family =>
    if family.toNat = 2 then return inetAddress? (IpAddress.v4? ((Bytes.slice? bytes 4 4).getD [])) bytes
    else if family.toNat = inet6 then return inetAddress? (IpAddress.v6? ((Bytes.slice? bytes 8 16).getD [])) bytes
    else if family.toNat = 1 then return some (.unix (← loadPath bytes))
    else return none

theorem address?_cons (inet6 : Nat) (length family : UInt8) (rest : Bytes) :
    address? inet6 (length :: family :: rest) =
      if family.toNat = 2 then
        inetAddress? (IpAddress.v4? ((Bytes.slice? (length :: family :: rest) 4 4).getD [])) (length :: family :: rest)
      else if family.toNat = inet6 then
        inetAddress? (IpAddress.v6? ((Bytes.slice? (length :: family :: rest) 8 16).getD [])) (length :: family :: rest)
      else if family.toNat = 1 then
        some (.unix (unixPath ((length :: family :: rest).take (max length.toNat 2))))
      else none := rfl

/-- Where there is a family the bounds are in order, and the path is cut out within the bytes. -/
theorem loadPath_cons (length family : UInt8) (rest : Bytes) : loadPath (length :: family :: rest) =
    .ok (unixPath ((length :: family :: rest).take (max length.toNat 2))) := by
  have told : loadByte (length :: family :: rest) 0 = .ok length := rfl
  generalize whole : length :: family :: rest = bytes at told ⊢
  have room : 2 ≤ bytes.length := by
    rw [← whole]
    exact Nat.le_add_left 2 rest.length
  have clamped : clamp length.toNat 2 bytes.length = .ok (min (max length.toNat 2) bytes.length) := if_pos room
  have cut : between bytes 0 (min (max length.toNat 2) bytes.length) = _ :=
    Bytes.between_eq (Nat.zero_le _) (Nat.min_le_right _ _)
  rw [List.drop_zero, Nat.sub_zero, ← List.take_eq_take_min] at cut
  rw [loadPath, Outcome.bind_of_ok told, Outcome.bind_of_ok clamped, Outcome.bind_of_ok cut, Bytes.loadText_eq, unixPath]

/-- Reading step by step leaves no byte out and never leaves the bytes. -/
theorem loadAddress?_eq (inet6 : Nat) (bytes : Bytes) : loadAddress? inet6 bytes = .ok (address? inet6 bytes) := by
  match bytes with
  | [] => rfl
  | [_] => rfl
  | length :: family :: rest =>
    have second : (length :: family :: rest)[1]? = some family := rfl
    rw [loadAddress?, address?_cons, second]
    dsimp only
    split
    · rfl
    split
    · rfl
    split
    · rw [loadPath_cons]
      rfl
    · rfl

/-! ### Room -/

def leastRoom? (inet6 : Nat) (family : UInt8) : Option Nat :=
  if family.toNat = 2 then some 8
  else if family.toNat = inet6 then some 24
  else if family.toNat = 1 then some 2
  else none

theorem isSome_v4? (octets : Bytes) : (IpAddress.v4? octets).isSome ↔ octets.length = 4 := by
  rw [IpAddress.v4?]
  split <;> simp [*]

theorem isSome_v6? (octets : Bytes) : (IpAddress.v6? octets).isSome ↔ octets.length = 16 := by
  rw [IpAddress.v6?]
  split <;> simp [*]

/-- The octets stand behind the port, so it is there if they are. -/
theorem isSome_inetAddress? {read : Bytes → Option IpAddress} {offset size : Nat}
    (reads : ∀ octets, (read octets).isSome ↔ octets.length = size) (positive : 0 < size) (behind : 4 ≤ offset)
    (bytes : Bytes) : (inetAddress? (read ((Bytes.slice? bytes offset size).getD [])) bytes).isSome ↔
      offset + size ≤ bytes.length := by
  rw [Bytes.slice?_eq]
  by_cases room : offset + size ≤ bytes.length
  · have whole : ((bytes.drop offset).take size).length = size := by
      rw [List.length_take, List.length_drop]
      omega
    obtain ⟨ip, found⟩ := Option.isSome_iff_exists.mp ((reads _).mpr whole)
    have port : 2 + 2 ≤ bytes.length := by omega
    rw [if_pos room, Option.getD_some, found, inetAddress?, Bytes.slice?_eq, if_pos port]
    exact iff_of_true rfl room
  · have none : read [] = none := by
      rw [← Option.not_isSome_iff_eq_none, reads, List.length_nil]
      exact Nat.ne_of_lt positive
    rw [if_neg room, Option.getD_none, none]
    exact iff_of_false Bool.false_ne_true room

/-- Bytes hold an address just if they are enough for their family. -/
theorem isSome_address?_iff {inet6 : Nat} {bytes : Bytes} : (address? inet6 bytes).isSome ↔
    ∃ room, bytes[1]?.bind (leastRoom? inet6) = some room ∧ room ≤ bytes.length := by
  match bytes with
  | [] => simp [address?]
  | [_] => simp [address?]
  | length :: family :: rest =>
    have told : (length :: family :: rest)[1]?.bind (leastRoom? inet6) = leastRoom? inet6 family := rfl
    have two : 2 ≤ (length :: family :: rest).length := Nat.le_add_left 2 rest.length
    rw [address?_cons, told, leastRoom?]
    generalize length :: family :: rest = bytes at two ⊢
    by_cases v4 : family.toNat = 2
    · rw [if_pos v4, if_pos v4, isSome_inetAddress? isSome_v4? (by decide) (by decide)]
      simp
    rw [if_neg v4, if_neg v4]
    by_cases v6 : family.toNat = inet6
    · rw [if_pos v6, if_pos v6, isSome_inetAddress? isSome_v6? (by decide) (by decide)]
      simp
    rw [if_neg v6, if_neg v6]
    by_cases unix : family.toNat = 1
    · simp [unix, two]
    · simp [unix]

/-- An address comes back from the bytes that store it, whatever stands behind it, and a path also if it is no text; its
length is told in a byte, so it has at most 253. Whatever the bytes are, and the length and the family that they tell,
reading does not leave them, and there is an address just if they are enough for one of the family. -/
theorem addresses_within {inet6 : UInt8} (other : inet6 ≠ 2 ∧ inet6 ≠ 1) (bytes : Bytes) :
    (∀ address, Stores inet6 bytes address → address? inet6.toNat bytes = some address) ∧
      (∀ length path rest, bytes = [[length, 1], path, rest].flatten → 0 ∉ path →
        2 + path.length ≤ length.toNat → EndsPath length path rest →
        address? inet6.toNat bytes = some (.unix (Utf8.toString path))) ∧
      loadAddress? inet6.toNat bytes = .ok (address? inet6.toNat bytes) ∧
      ((address? inet6.toNat bytes).isSome ↔
        ∃ room, bytes[1]?.bind (leastRoom? inet6.toNat) = some room ∧ room ≤ bytes.length) := by
  refine ⟨fun address stores => address?_of_stores other stores, ?_, loadAddress?_eq _ bytes, isSome_address?_iff⟩
  rintro length path rest rfl free within ends
  exact address?_of_path other free within ends

def unendedPath : Bytes := [[6, 1], Utf8.encode "/tmp".toList, List.replicate 26 0x78].flatten

theorem stores_unendedPath : Stores 28 unendedPath (.unix "/tmp") :=
  .unix 6 "/tmp" (List.replicate 26 0x78) (by decide) (by decide) (.inr (.inr (by decide)))

/-- A path with a byte of no text, which the end of the bytes ends before the length that is told does. -/
def strayPath : Bytes := [[106, 1], [0x2F, 0xFF, 0x61], []].flatten

/-- A local path that only its length ends, and one with a byte of no text. -/
theorem addresses_within_unendedPath :
    ((28 : UInt8) ≠ 2 ∧ (28 : UInt8) ≠ 1) ∧ Stores 28 unendedPath (.unix "/tmp") ∧
      address? 28 unendedPath = some (.unix "/tmp") ∧ loadAddress? 28 unendedPath = .ok (some (.unix "/tmp")) ∧
      address? 28 strayPath = some (.unix "/\ufffda") := by
  have other : (28 : UInt8) ≠ 2 ∧ (28 : UInt8) ≠ 1 := by decide
  obtain ⟨reads, -, loads, -⟩ := addresses_within other unendedPath
  obtain ⟨-, paths, -⟩ := addresses_within other strayPath
  have read := reads _ stores_unendedPath
  exact ⟨other, stores_unendedPath, read, read ▸ loads, paths 106 _ _ rfl (by decide) (by decide) (.inl rfl)⟩

example : address? 28 [0, 1, 0x2F] = some (.unix "") ∧ address? 28 [255, 1, 0x2F] = some (.unix "/") ∧
    address? 28 [16, 2, 0, 80, 127, 0, 0] = none := by decide

/-! ### Placeholders -/

/-- What stands for an end that a socket does not have: port zero of no host, or no path. -/
inductive Placeholder : Address → Prop
  | v4 : Placeholder (.inet ⟨.v4 (Vector.replicate 4 0), 0⟩)
  | v6 : Placeholder (.inet ⟨.v6 (Vector.replicate 16 0), 0⟩)
  | path : Placeholder (.unix "")

private theorem eq_replicate_of_zeros {n : Nat} {octets : Vector UInt8 n} (zeros : octets.toList.all (· == 0) = true) :
    octets = Vector.replicate n 0 := by
  rw [← Vector.toList_inj, Vector.toList_replicate]
  exact List.eq_replicate_iff.mpr ⟨octets.length_toList, fun b member => eq_of_beq (List.all_eq_true.mp zeros b member)⟩

/-- Addresses of no host count as unset, whatever they hold besides. -/
theorem isUnset_iff {address : Address} : isUnset address = true ↔ Placeholder address := by
  constructor
  · intro unset
    match address with
    | .unix path =>
      rw [String.isEmpty_iff.mp unset]
      exact .path
    | .inet ⟨ip, port⟩ =>
      obtain ⟨portless, hostless⟩ := Bool.and_eq_true_iff.mp unset
      rw [show port = 0 from eq_of_beq portless]
      match ip with
      | .v4 octets =>
        rw [eq_replicate_of_zeros hostless]
        exact .v4
      | .v6 octets =>
        rw [eq_replicate_of_zeros hostless]
        exact .v6
  · rintro (_ | _ | _)
    · decide
    · decide
    · decide

end HostProbe.BSD
