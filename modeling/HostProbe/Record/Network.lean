import HostProbe.Filter
import HostProbe.Json
import HostProbe.Number.Integer
import HostProbe.Text.Utf8

/-! What is reported about network interfaces and connections. -/
namespace HostProbe

structure NetIoCounters where
  bytesSent : Nat := 0
  bytesReceived : Nat := 0
  packetsSent : Nat := 0
  packetsReceived : Nat := 0
  errorsIn : Nat := 0
  errorsOut : Nat := 0
  dropsIn : Nat := 0
  dropsOut : Nat := 0
  deriving Repr, DecidableEq, Inhabited

def NetIoCounters.toJson (c : NetIoCounters) : Json :=
  .record [.field "bytes_sent" (.nat c.bytesSent), .field "bytes_recv" (.nat c.bytesReceived),
    .field "packets_sent" (.nat c.packetsSent), .field "packets_recv" (.nat c.packetsReceived),
    .field "errin" (.nat c.errorsIn), .field "errout" (.nat c.errorsOut), .field "dropin" (.nat c.dropsIn),
    .field "dropout" (.nat c.dropsOut)]

inductive NicFamily
  | inet
  | inet6
  | link
  deriving Repr, DecidableEq, Inhabited

def NicFamily.name : NicFamily → String
  | inet => "inet"
  | inet6 => "inet6"
  | link => "link"

structure NicAddress where
  family : NicFamily
  address : String
  netmask : Option String := none
  broadcast : Option String := none
  peer : Option String := none
  deriving Repr, DecidableEq, Inhabited

def NicAddress.toJson (a : NicAddress) : Json :=
  .record [.field "family" (.text a.family.name), .field "address" (.text a.address),
    .field? "netmask" .text a.netmask, .field? "broadcast" .text a.broadcast, .field? "ptp" .text a.peer]

inductive Duplex
  | full
  | half
  | unknown
  deriving Repr, DecidableEq, Inhabited

def Duplex.name : Duplex → String
  | full => "full"
  | half => "half"
  | unknown => "unknown"

/-- State of an interface; the speed is in megabits per second and zero when unknown. -/
structure NicStats where
  isUp : Bool := false
  duplex : Duplex := .unknown
  speed : Nat := 0
  mtu : Nat := 0
  flags : String := ""
  deriving Repr, DecidableEq, Inhabited

def NicStats.toJson (s : NicStats) : Json :=
  .record [.field "is_up" (.bool s.isUp), .field "duplex" (.text s.duplex.name), .field "speed" (.nat s.speed),
    .field "mtu" (.nat s.mtu), .field "flags" (.text s.flags)]

/-- Internet addresses: four or sixteen octets in network order. -/
inductive IpAddress
  | v4 (octets : Vector UInt8 4)
  | v6 (octets : Vector UInt8 16)
  deriving Repr, DecidableEq

namespace IpAddress

def v4? (octets : Bytes) : Option IpAddress :=
  if h : octets.length = 4 then some (.v4 ⟨octets.toArray, by simpa using h⟩) else none

def v6? (octets : Bytes) : Option IpAddress :=
  if h : octets.length = 16 then some (.v6 ⟨octets.toArray, by simpa using h⟩) else none

def octets : IpAddress → Bytes
  | v4 o => o.toList
  | v6 o => o.toList

def isUnspecified (a : IpAddress) : Bool := a.octets.all (· == 0)

def isV6 : IpAddress → Bool
  | v4 _ => false
  | v6 _ => true

def dotted (octets : Bytes) : String := ".".intercalate (octets.map fun b => toString b.toNat)

def groups : Bytes → List Nat
  | a :: b :: rest => (a.toNat * 256 + b.toNat) :: groups rest
  | _ => []

/-- Where the longest run of zeros begins and how long it is; the first of equal runs wins. -/
def zeroRun (gs : List Nat) : Nat × Nat :=
  let step (s : (Nat × Nat) × (Nat × Nat)) (g : Nat × Nat) : (Nat × Nat) × (Nat × Nat) :=
    let (best, current) := s
    if g.1 = 0 then
      let current := if current.2 = 0 then (g.2, 1) else (current.1, current.2 + 1)
      (if current.2 > best.2 then current else best, current)
    else (best, (0, 0))
  (gs.zipIdx.foldl step ((0, 0), (0, 0))).1

/-- Groups in hexadecimal between colons, the longest run of two or more zero groups left out; an embedded
four-octet address is shown dotted. -/
def colons (octets : Bytes) : String :=
  if octets.take 12 = List.replicate 10 0 ++ [0xFF, 0xFF] then "::ffff:" ++ dotted (octets.drop 12)
  else
    let gs := groups octets
    let show' (gs : List Nat) : String := ":".intercalate (gs.map Integer.toHex)
    let (start, length) := zeroRun gs
    if length > 1 then show' (gs.take start) ++ "::" ++ show' (gs.drop (start + length)) else show' gs

def text : IpAddress → String
  | v4 o => dotted o.toList
  | v6 o => colons o.toList

end IpAddress

structure SocketAddress where
  ip : IpAddress
  port : Nat
  deriving Repr, DecidableEq

def SocketAddress.text (a : SocketAddress) : String :=
  if a.ip.isV6 then s!"[{a.ip.text}]:{a.port}" else s!"{a.ip.text}:{a.port}"

inductive Address
  | inet (address : SocketAddress)
  | unix (path : String)
  deriving Repr, DecidableEq

def Address.text : Address → String
  | inet a => a.text
  | unix path => path

inductive ConnectionStatus
  | established
  | synSent
  | synReceived
  | finWait1
  | finWait2
  | timeWait
  | close
  | closeWait
  | lastAck
  | listen
  | closing
  | deleteTcb
  | bound
  | idle
  | none
  deriving Repr, DecidableEq, Inhabited

namespace ConnectionStatus

def all : List ConnectionStatus :=
  [established, synSent, synReceived, finWait1, finWait2, timeWait, close, closeWait, lastAck, listen, closing,
    deleteTcb, bound, idle, none]

def text : ConnectionStatus → String
  | established => "ESTABLISHED"
  | synSent => "SYN_SENT"
  | synReceived => "SYN_RECV"
  | finWait1 => "FIN_WAIT1"
  | finWait2 => "FIN_WAIT2"
  | timeWait => "TIME_WAIT"
  | close => "CLOSE"
  | closeWait => "CLOSE_WAIT"
  | lastAck => "LAST_ACK"
  | listen => "LISTEN"
  | closing => "CLOSING"
  | deleteTcb => "DELETE_TCB"
  | bound => "BOUND"
  | idle => "IDLE"
  | none => "NONE"

def name : ConnectionStatus → String
  | s => s.text

def ofBsdState (state : Int) : ConnectionStatus :=
  match state with
  | 0 => close
  | 1 => listen
  | 2 => synSent
  | 3 => synReceived
  | 4 => established
  | 5 => closeWait
  | 6 => finWait1
  | 7 => closing
  | 8 => lastAck
  | 9 => finWait2
  | 10 => timeWait
  | _ => none

def ofLinuxState (state : Nat) : ConnectionStatus :=
  match state with
  | 1 => established
  | 2 => synSent
  | 3 | 12 => synReceived
  | 4 => finWait1
  | 5 => finWait2
  | 6 => timeWait
  | 7 => close
  | 8 => closeWait
  | 9 => lastAck
  | 10 => listen
  | 11 => closing
  | _ => none

end ConnectionStatus

@[ext]
structure Connection where
  fd : Int
  family : FamilySet
  kind : SocketTypeSet
  localEnd : Option Address
  remoteEnd : Option Address
  status : ConnectionStatus
  pid : Option Pid
  deriving Repr, DecidableEq

def Connection.toJson (c : Connection) : Json :=
  let address (a : Address) : Json := .text a.text
  .record [.field "fd" (.int c.fd), .field "family" (.text c.family.text), .field "kind" (.text c.kind.text),
    .field "local" (.option address c.localEnd), .field "remote" (.option address c.remoteEnd),
    .field "status" (.text c.status.name), .field? "pid" .int c.pid]

/-! ### Octets of addresses -/

namespace IpAddress

theorem v4?_octets (octets : Vector UInt8 4) : v4? octets.toList = some (.v4 octets) := by
  rw [v4?, dif_pos (by simp)]
  simp [Vector.toList]

theorem v6?_octets (octets : Vector UInt8 16) : v6? octets.toList = some (.v6 octets) := by
  rw [v6?, dif_pos (by simp)]
  simp [Vector.toList]

theorem length_octets (ip : IpAddress) : ip.octets.length = 4 ∨ ip.octets.length = 16 := by
  cases ip with
  | v4 o => exact .inl o.length_toList
  | v6 o => exact .inr o.length_toList

theorem exists_octets {octets : Bytes} (length : octets.length = 4 ∨ octets.length = 16) :
    ∃ ip : IpAddress, ip.octets = octets := by
  rcases length with four | sixteen
  · exact ⟨.v4 ⟨octets.toArray, by simpa using four⟩, by simp [IpAddress.octets, Vector.toList]⟩
  · exact ⟨.v6 ⟨octets.toArray, by simpa using sixteen⟩, by simp [IpAddress.octets, Vector.toList]⟩

end IpAddress
end HostProbe
