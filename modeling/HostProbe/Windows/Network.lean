import HostProbe.Table
import HostProbe.Windows.Processors

/-! Network adapters and sockets of a Windows system. -/
namespace HostProbe.Windows

/-! ### Adapters -/

def ipAddress? (b : Bytes) : Option IpAddress :=
  if b.length < 2 then none
  else
    let family := Bytes.natAt b 0 2
    if family = inet then IpAddress.v4? ((b.drop 4).take 4)
    else if family = inet6 then IpAddress.v6? ((b.drop 8).take 16)
    else none

def maskOctets (size bits : Nat) : Bytes :=
  (List.range size).map fun i => UInt8.ofNat (255 - 255 >>> min 8 (bits - 8 * i))

/-- The mask of a prefix of so many bits; longer ones than the address set every bit. -/
def netmask (address : IpAddress) (bits : Nat) : IpAddress :=
  match address with
  | .v4 _ => .v4 ⟨(maskOctets 4 bits).toArray, by simp [maskOctets]⟩
  | .v6 _ => .v6 ⟨(maskOctets 16 bits).toArray, by simp [maskOctets]⟩

def hexByte (b : UInt8) : String :=
  let digit (n : Nat) : Char := (Nat.digitChar n).toUpper
  String.ofList [digit (b.toNat / 16), digit (b.toNat % 16)]

def hardwareAddress? (b : Bytes) : Option String :=
  if b.isEmpty then none else some ("-".intercalate (b.map hexByte))

/-- A system without adapters says so with a code of its own. -/
def noData : ReturnCode := 232

def adapters (context : Context) : Query (List AdapterEntry) :=
  let call := "GetAdaptersAddresses"
  roomUntilFits context call (16 * 1024) (fun size => Ask.windows (.adapters size)) fun code =>
    if code = noData then return [] else codeFailure call code

def adapterName (a : AdapterEntry) : String := wideText a.name

def addressOf (ip : IpAddress) (bits : Nat) : NicAddress where
  family := if ip.isV6 then .inet6 else .inet
  address := ip.text
  netmask := some (netmask ip bits).text

def addressesOf (a : AdapterEntry) : List NicAddress :=
  (a.addresses.filterMap fun (b, bits) => (ipAddress? b).map fun ip => addressOf ip bits)
    ++ ((hardwareAddress? a.hardware).map fun text => ({ family := .link, address := text } : NicAddress)).toList

def netAddresses (context : Context) : Query (Table (List NicAddress)) := do
  return Table.ofList ((← adapters context).map fun a => (adapterName a, addressesOf a))

def operational : Int := 1
def loopbackType : Nat := 24

/-- Speeds and units of transfer of all ones are not known; whatever works is taken to go both ways at once. -/
def statsOf (a : AdapterEntry) : NicStats :=
  let up := a.status == operational
  let flags := (if up then ["up", "running"] else []) ++ if a.type == loopbackType then ["loopback"] else []
  { isUp := up
    duplex := if up then .full else .unknown
    speed := if a.speed = Word.top then 0 else a.speed / 1000000
    mtu := if a.mtu = 0xffffffff then 0 else a.mtu
    flags := ",".intercalate flags }

def netStats (context : Context) : Query (Table NicStats) := do
  return Table.ofList ((← adapters context).map fun a => (adapterName a, statsOf a))

def trafficOf (t : AdapterTraffic) : Outcome NetIoCounters := do
  return {
    bytesSent := t.outBytes, bytesReceived := t.inBytes
    packetsSent := ← Word.add t.outUnicast t.outOther
    packetsReceived := ← Word.add t.inUnicast t.inOther
    errorsIn := t.inErrors, errorsOut := t.outErrors, dropsIn := t.inDrops, dropsOut := t.outDrops }

def netIoCounters (context : Context) : Query (Table NetIoCounters) := do
  let found ← (← adapters context).mapM fun a => do
    match ← (Ask.windows (.adapterTraffic a.id) : Program (Except ReturnCode AdapterTraffic)) with
    | .error _ => return none
    | .ok t => return some (adapterName a, ← Query.lift (trafficOf t))
  return Table.ofList (found.filterMap id)

/-! ### Sockets -/

def socketsOf (context : Context) (filter : ConnectionFilter) (layout : SocketLayout) (call : String)
    (ask : Nat → Program (RoomReply ReturnCode Bytes)) : Query (List Connection) := do
  if !filter.wants layout.family layout.kind then return []
  return layout.connections (← roomUntilFits context call (16 * 1024) ask fun code => codeFailure call code)

def connections (context : Context) (owner : Option Pid) (filter : ConnectionFilter) : Query (List Connection) := do
  let tcp4 ← socketsOf context filter .tcp4 "GetExtendedTcpTable(AF_INET)" fun size => Ask.windows (.tcpTable inet size)
  let tcp6 ← socketsOf context filter .tcp6 "GetExtendedTcpTable(AF_INET6)" fun size =>
    Ask.windows (.tcpTable inet6 size)
  let udp4 ← socketsOf context filter .udp4 "GetExtendedUdpTable(AF_INET)" fun size => Ask.windows (.udpTable inet size)
  let udp6 ← socketsOf context filter .udp6 "GetExtendedUdpTable(AF_INET6)" fun size =>
    Ask.windows (.udpTable inet6 size)
  let all := tcp4 ++ tcp6 ++ udp4 ++ udp6
  match owner with
  | none => return all
  | some pid => return all.filter fun c => c.pid == some pid

end HostProbe.Windows
