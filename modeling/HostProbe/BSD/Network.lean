import HostProbe.Bytes
import HostProbe.Posix.Interfaces
import HostProbe.Record.Network

/-! Traffic and state of network interfaces, from the counters that come with their link-layer addresses, and socket
addresses whose first bytes are a length and a family. -/
namespace HostProbe.BSD

/-! ### Interfaces -/

structure InterfaceDialect where
  sockets : Posix.SocketLayout
  /-- Whether dropped output is counted. -/
  countsOutputDrops : Bool := false
  /-- Whether the active media of an interface can be asked for. -/
  tellsMedia : Bool := true
  /-- Number of the error of an operation that is not supported. -/
  notSupported : ErrorNumber := 45

def linkCounters? (d : InterfaceDialect) (entry : InterfaceEntry) : Option LinkCounters := do
  let address ← entry.address
  if d.sockets.family address = d.sockets.link then entry.counters else none

def netIoCounters (d : InterfaceDialect) : Query (Table NetIoCounters) := do
  return Table.ofList ((← Posix.interfaces).filterMap fun e => (linkCounters? d e).map fun c =>
    (Posix.interfaceName e, {
      bytesSent := c.outBytes, bytesReceived := c.inBytes, packetsSent := c.outPackets
      packetsReceived := c.inPackets, errorsIn := c.inErrors, errorsOut := c.outErrors, dropsIn := c.inDrops
      dropsOut := if d.countsOutputDrops then c.outDrops else 0 }))

def mediaDuplex (word : Nat) : Duplex :=
  if word &&& 0x100000 ≠ 0 then .full else if word &&& 0x200000 ≠ 0 then .half else .unknown

/-- Error numbers of an interface that is gone, and of one that has no media. -/
def goneNumbers : List ErrorNumber := [ErrorNumber.noAddress, ErrorNumber.noDevice]
def mediumlessNumbers (notSupported : ErrorNumber) : List ErrorNumber :=
  [ErrorNumber.invalidArgument, ErrorNumber.notTerminal, notSupported]

def duplex? (notSupported : ErrorNumber) (name : String) : Query (Option Duplex) := do
  if Text.byteLength name.toList ≥ 16 || name.toList.contains '\x00' then return none
  match ← (Ask.posix (.linkMedia name) : Program (Except IoError Nat)) with
  | .ok word => return some (mediaDuplex word)
  | .error cause =>
    match cause.number? with
    | some n =>
      if goneNumbers.contains n then return none
      if (mediumlessNumbers notSupported).contains n then return some .unknown
      Query.report (.os s!"ioctl(SIOCGIFMEDIA, {name})" cause)
    | none => Query.report (.os s!"ioctl(SIOCGIFMEDIA, {name})" cause)

def controlSocket : Query Unit := do
  match ← (Ask.posix .controlSocket : Program (Except IoError Unit)) with
  | .ok () => return ()
  | .error cause => Query.report (.os "socket" cause)

def netStats (d : InterfaceDialect) : Query (Table NicStats) := do
  let entries ← Posix.interfaces
  if d.tellsMedia then controlSocket
  let found ← entries.mapM fun e => do
    match linkCounters? d e with
    | none => return none
    | some c =>
      let name := Posix.interfaceName e
      let duplex ← if d.tellsMedia then duplex? d.notSupported name else pure (some .unknown)
      return duplex.map fun duplex => (name, ({
        isUp := Posix.isUp e.flags, duplex, speed := c.baudRate / 1000000, mtu := c.mtu
        flags := Posix.flagNames 0x8000 e.flags } : NicStats))
  return Table.ofList (found.filterMap id)

/-! ### Socket addresses -/

/-- Family of a number; systems differ in the number of the second internet family. -/
def familyOf? (inet6 : Int) (number : Int) : Option FamilySet :=
  if number = 2 then some .inet else if number = inet6 then some .inet6 else if number = 1 then some .unix else none

def socketTypeOf? : Int → Option SocketTypeSet
  | 1 => some .stream
  | 2 => some .datagram
  | 5 => some .seqPacket
  | _ => none

def unixPath (address : Bytes) : String := Bytes.cString (address.drop 2)

/-- The address that the bytes hold, if its family is known and none of it is missing. The length byte bounds a path
that no zero byte ends. -/
def address? (inet6 : Nat) (bytes : Bytes) : Option Address :=
  match bytes with
  | length :: family :: _ =>
    let port (octets : Option IpAddress) : Option Address := do
      let octets ← octets
      return .inet { ip := octets, port := Bytes.toNatBig (← Bytes.slice? bytes 2 2) }
    if family.toNat = 2 then port (IpAddress.v4? ((Bytes.slice? bytes 4 4).getD []))
    else if family.toNat = inet6 then port (IpAddress.v6? ((Bytes.slice? bytes 8 16).getD []))
    else if family.toNat = 1 then some (.unix (unixPath (bytes.take (max length.toNat 2))))
    else none
  | _ => none

/-- Whether an address stands for none: any host with port zero, or an empty path. -/
def isUnset : Address → Bool
  | .inet a => a.port == 0 && a.ip.isUnspecified
  | .unix path => path.isEmpty

end HostProbe.BSD
