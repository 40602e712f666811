import HostProbe.Bytes
import HostProbe.Program
import HostProbe.Record.Network
import HostProbe.Table

/-! Addresses and flags of network interfaces. -/
namespace HostProbe.Posix

structure SocketLayout where
  /-- Family of an address. -/
  family : Bytes → Nat
  /-- Number of the second internet family. -/
  inet6 : Nat
  /-- Number of the link-layer family. -/
  link : Nat
  /-- Octets of a link-layer address. -/
  linkOctets : Bytes → Bytes

namespace SocketLayout

/-- The family comes first, as a word of two bytes; a link-layer address has at most eight octets. -/
def linux : SocketLayout where
  family a := Bytes.natAt a 0 2
  inet6 := 10
  link := 17
  linkOctets a := (a.drop 12).take (min (Bytes.natAt a 11 1) 8)

/-- A length byte comes before the family; the octets of a link-layer address follow the interface's name. -/
def bsd (inet6 : Nat) : SocketLayout where
  family a := Bytes.natAt a 1 1
  inet6
  link := 18
  linkOctets a := (a.drop (8 + Bytes.natAt a 5 1)).take (Bytes.natAt a 6 1)

end SocketLayout

def formatMac (octets : Bytes) : Option String :=
  if octets.isEmpty then none else some (String.ofList (Text.join [':'] (octets.map Integer.byteHex)))

def socketAddressText (layout : SocketLayout) (address : Bytes) : Option (NicFamily × String) :=
  let family := layout.family address
  if family = 2 then (IpAddress.v4? ((address.drop 4).take 4)).map fun a => (.inet, a.text)
  else if family = layout.inet6 then (IpAddress.v6? ((address.drop 8).take 16)).map fun a => (.inet6, a.text)
  else if family = layout.link then (formatMac (layout.linkOctets address)).map fun a => (.link, a)
  else none

def flagBits : List (Nat × String) :=
  [(0x1, "up"), (0x2, "broadcast"), (0x4, "debug"), (0x8, "loopback"), (0x10, "pointopoint"), (0x40, "running"),
    (0x80, "noarp"), (0x100, "promisc"), (0x200, "allmulti")]

/-- Names of the flags that are set, joined by commas; systems differ in the bit for multicast. -/
def flagNames (multicast flags : Nat) : String :=
  ",".intercalate ((flagBits ++ [(multicast, "multicast")]).filterMap fun (bit, name) =>
    if flags &&& bit ≠ 0 then some name else none)

/-- An interface is up when it is also running. -/
def isUp (flags : Nat) : Bool := flags &&& 0x1 != 0 && flags &&& 0x40 != 0

def isPointToPoint (flags : Nat) : Bool := flags &&& 0x10 != 0

def interfaceName (entry : InterfaceEntry) : String := Utf8.toString (entry.name.getD [])

def interfaces : Query (List InterfaceEntry) := do
  match ← (Ask.posix .interfaces : Program (Except IoError (List InterfaceEntry))) with
  | .ok entries => return entries
  | .error cause => Query.report (.os "getifaddrs" cause)

def interfaceFlags : Query (Table Nat) := do
  return (← interfaces).foldl (fun t e => Table.insertNew t (interfaceName e) e.flags) []

def nicAddress (layout : SocketLayout) (entry : InterfaceEntry) : Option NicAddress := do
  let (family, address) ← entry.address.bind (socketAddressText layout)
  let text (a : Option Bytes) : Option String := (a.bind (socketAddressText layout)).map (·.2)
  let other := text entry.other
  return {
    family, address, netmask := text entry.netmask
    broadcast := if isPointToPoint entry.flags then none else other
    peer := if isPointToPoint entry.flags then other else none }

def netAddresses (layout : SocketLayout) : Query (Table (List NicAddress)) := do
  return (← interfaces).foldl (fun t e =>
    match nicAddress layout e with
    | some a => Table.update t (interfaceName e) fun old => old.getD [] ++ [a]
    | none => t) []

end HostProbe.Posix
