import HostProbe.BSD.Network
import HostProbe.Bytes
import HostProbe.Call.Kernel
import HostProbe.Filter
import HostProbe.Record.System
import HostProbe.Record.Network
import HostProbe.Record.Process
import HostProbe.RecordLayout
import HostProbe.Table

/-! Records of the kernel's tables. -/
namespace HostProbe.MacOS

def inet6 : Nat := 30

/-! ### Processes -/

def statusOfNumber : Int → ProcessStatus
  | 1 => .idle
  | 2 => .running
  | 3 => .sleeping
  | 4 => .stopped
  | 5 => .zombie
  | _ => .waiting

structure ProcessEntry where
  pid : Pid
  ppid : Pid
  status : ProcessStatus
  /-- Beginning of the name of what the process runs. -/
  command : String
  deriving Repr, DecidableEq, Inhabited

def ProcessEntry.layout : RecordLayout ProcessEntry where
  size := 648
  read b := {
    pid := Bytes.intAt b 40 4, ppid := Bytes.intAt b 560 4, status := statusOfNumber (Bytes.intAt b 36 1)
    command := Bytes.stringAt b 243 17 }

structure Identity where
  users : ProcessIds
  groups : ProcessIds
  terminal : Nat
  startSeconds : Nat
  startMicroseconds : Nat
  deriving Repr, Inhabited

def Identity.layout : RecordLayout Identity where
  size := 136
  read b := {
    users := { real := Bytes.natAt b 28 4, effective := Bytes.natAt b 20 4, saved := Bytes.natAt b 36 4 }
    groups := { real := Bytes.natAt b 32 4, effective := Bytes.natAt b 24 4, saved := Bytes.natAt b 40 4 }
    terminal := Bytes.natAt b 108 4
    startSeconds := Bytes.natAt b 120 8
    startMicroseconds := Bytes.natAt b 128 8 }

/-- Memory, time and counts of a process; times are in units of the kernel's clock, negative counts stand for none. -/
structure TaskInfo where
  virtualSize : Nat
  residentSize : Nat
  userTime : Nat
  systemTime : Nat
  faults : Nat
  switches : Nat
  threads : Nat
  deriving Repr, DecidableEq, Inhabited

def TaskInfo.layout : RecordLayout TaskInfo where
  size := 96
  read b := {
    virtualSize := Bytes.natAt b 0 8, residentSize := Bytes.natAt b 8 8, userTime := Bytes.natAt b 16 8
    systemTime := Bytes.natAt b 24 8, faults := (Bytes.intAt b 52 4).toNat, switches := (Bytes.intAt b 80 4).toNat
    threads := (Bytes.intAt b 84 4).toNat }

def threadLayout (id : Nat) : RecordLayout ThreadTimes where
  size := 112
  read b :=
    let seconds (offset : Nat) : Float := Real.ofNat (Bytes.natAt b offset 8) / 1000000000.0
    { id, user := seconds 0, system := seconds 8 }

def directoryLayout : RecordLayout String where
  size := 2352
  read b := Bytes.stringAt b 152 1024

def usageLayout : RecordLayout IoCounters where
  size := 160
  read b := { readBytes := Bytes.natAt b 144 8, writeBytes := Bytes.natAt b 152 8 }

inductive DescriptorKind
  | file
  | socket
  | other
  deriving Repr, DecidableEq, Inhabited

def descriptorLayout : RecordLayout (Int × DescriptorKind) where
  size := 8
  read b :=
    let kind : DescriptorKind :=
      match Bytes.natAt b 4 4 with
      | 1 => .file
      | 2 => .socket
      | _ => .other
    (Bytes.intAt b 0 4, kind)

def fileLayout : RecordLayout (Option String) where
  size := 1200
  read b :=
    if Bytes.natAt b 28 2 &&& 0xf000 = 0x8000 then some (Bytes.stringAt b 176 1024) else none

structure Arguments where
  command : List String := []
  environment : List String := []
  deriving Repr, DecidableEq, Inhabited

/-- Splits a block that holds the number of arguments, the path of the executable with zero bytes behind it, and then
the arguments and the environment, each ended by a zero byte. An empty entry ends the environment. -/
def Arguments.ofBlock? (block : Bytes) : Option Arguments := do
  let count := (Bytes.intAt (← Bytes.slice? block 0 4) 0 4).toNat
  let padding := (block.drop 4).dropWhile (· != 0)
  let strings := padding.dropWhile (· == 0)
  if strings.isEmpty then none
  let entries := strings.splitOn 0
  return {
    command := (entries.take count).map Utf8.toString
    environment := ((entries.drop count).takeWhile fun e => !e.isEmpty).map Utf8.toString }

/-! ### Sockets -/

inductive SocketPart
  | internet
  | tcp
  | unix
  | other
  deriving Repr, DecidableEq, Inhabited

def SocketPart.ofNumber : Int → SocketPart
  | 1 => internet
  | 2 => tcp
  | 3 => unix
  | _ => other

def partOffset : Nat := 264

def inetAddress (b : Bytes) (family : FamilySet) (address port : Nat) : Option Address := do
  let ip ← if family == .inet then IpAddress.v4? ((b.drop (address + 12)).take 4)
    else IpAddress.v6? ((b.drop address).take 16)
  return .inet { ip, port := Bytes.toNatBig ((b.drop port).take 2) }

def inetEnds (b : Bytes) (family : FamilySet) (part : SocketPart) :
    Option (Option Address × Option Address × ConnectionStatus) := do
  let status ←
    match part with
    | .tcp => some (ConnectionStatus.ofBsdState (Bytes.intAt b (partOffset + 80) 4))
    | .internet => some .none
    | _ => none
  let far := (inetAddress b family (partOffset + 32) partOffset).filter fun a => !BSD.isUnset a
  return (inetAddress b family (partOffset + 48) (partOffset + 4), far, status)

/-- The two ends of a local socket; the far one may have no path. -/
def unixEnds (b : Bytes) (part : SocketPart) : Option (Option Address × Option Address × ConnectionStatus) :=
  if part ≠ .unix then none
  else
    let path (offset : Nat) : String := BSD.unixPath ((b.drop (partOffset + offset)).take 255)
    let far := path 271
    some (some (.unix (path 16)), if far.isEmpty then none else some (.unix far), .none)

/-- The connection of a socket's record, if its family and type are known and wanted. -/
def connectionOf? (pid : Pid) (filter : ConnectionFilter) (fd : Int) (b : Bytes) : Option Connection := do
  let family ← BSD.familyOf? inet6 (Bytes.intAt b 184 4)
  let kind ← BSD.socketTypeOf? (Bytes.intAt b 176 4)
  if !filter.selects family kind then none
  let part := SocketPart.ofNumber (Bytes.intAt b 256 4)
  let (localEnd, remoteEnd, status) ← if family == .unix then unixEnds b part else inetEnds b family part
  return { fd, family, kind, localEnd, remoteEnd, status, pid := some pid }

def socketSize : Nat := 792

/-! ### The system -/

structure MemoryCounts where
  free : Nat
  active : Nat
  inactive : Nat
  wired : Nat
  pageIns : Nat
  pageOuts : Nat
  speculative : Nat
  deriving Repr, DecidableEq, Inhabited

def MemoryCounts.layout : RecordLayout MemoryCounts where
  size := 152
  read b := {
    free := Bytes.natAt b 0 4, active := Bytes.natAt b 4 4, inactive := Bytes.natAt b 8 4, wired := Bytes.natAt b 12 4
    pageIns := Bytes.natAt b 32 8, pageOuts := Bytes.natAt b 40 8, speculative := Bytes.natAt b 92 4 }

def interfaceSize : Nat := 160

def interfaceTraffic? (message : Bytes) : Option (String × NetIoCounters) := do
  let header ← Bytes.slice? message 0 interfaceSize
  if Bytes.natAt header 3 1 ≠ 0x12 then none
  let length := Bytes.toNat (← Bytes.slice? message (interfaceSize + 5) 1)
  let name ← Bytes.slice? message (interfaceSize + 8) length
  let counter (offset : Nat) : Nat := Bytes.natAt header (32 + offset) 8
  return (Utf8.toString name, {
    bytesSent := counter 72, bytesReceived := counter 64, packetsSent := counter 40, packetsReceived := counter 24
    errorsIn := counter 32, errorsOut := counter 48, dropsIn := counter 96 })

/-- Messages of various kinds, each beginning with its length; a length of zero ends them. -/
def messages (bytes : Bytes) : List Bytes :=
  go bytes.length bytes
where
  -- Every message takes at least one byte.
  go : Nat → Bytes → List Bytes
    | 0, _ => []
    | fuel + 1, bytes =>
      match Bytes.slice? bytes 0 2 with
      | none => []
      | some length =>
        let length := Bytes.toNat length
        if length = 0 then [] else bytes.take length :: go fuel (bytes.drop length)

def interfaceTraffics (bytes : Bytes) : Table NetIoCounters :=
  Table.ofList ((messages bytes).filterMap interfaceTraffic?)

end HostProbe.MacOS
