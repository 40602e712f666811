import HostProbe.BSD.Process
import HostProbe.BSD.Network
import HostProbe.Filter
import HostProbe.Record.System
import HostProbe.Table

/-! Records of the kernel's tables. -/
namespace HostProbe.NetBSD

open BSD

def statusOfNumber : Int → ProcessStatus
  | 1 => .idle
  | 2 => .running
  | 3 | 5 => .zombie
  | 4 => .stopped
  | 6 => .dead
  | _ => .waiting

def secondsAt (b : Bytes) (offset : Nat) : Float := Sysctl.timeOf (Bytes.natAt b offset 4) (Bytes.natAt b (offset + 4) 4)

/-- Device number of a terminal; all ones stand for none. -/
def terminalOf (number : Nat) : Option Nat := if number = 0xffffffff then none else some number

def pidLayout : RecordLayout Pid where
  size := 680
  read b := Bytes.intAt b 116 4

/-- Reads the record of a process. User and system time of its children are only kept together. -/
def readProcess (p : Probe) (b : Bytes) : Outcome ProcessInfo := do
  let pages (offset : Nat) : Outcome Nat := p.bytesOfPages (Bytes.intAt b offset 4)
  let rss ← pages 432
  let text ← pages 436
  let data ← pages 440
  let vms ← Word.add (← Word.add text data) (← pages 444)
  return {
    pid := pidLayout.read b
    ppid := Bytes.intAt b 120 4
    status := statusOfNumber (Bytes.intAt b 360 1)
    name := Bytes.stringAt b 368 24
    users := { real := Bytes.natAt b 140 4, effective := Bytes.natAt b 136 4, saved := Bytes.natAt b 640 4 }
    groups := { real := Bytes.natAt b 148 4, effective := Bytes.natAt b 144 4, saved := Bytes.natAt b 644 4 }
    terminal := terminalOf (Bytes.natAt b 220 4)
    createTime := secondsAt b 456
    times := { user := secondsAt b 464, system := secondsAt b 472, childrenUser := some (secondsAt b 592) }
    memory := { rss, vms, text, data, pageFaults := some (Bytes.natAt b 520 8) }
    threads := some (Bytes.natAt b 616 8)
    switches := { voluntary := Bytes.natAt b 576 8, involuntary := Bytes.natAt b 584 8 }
    io := { readCount := Bytes.natAt b 536 8, writeCount := Bytes.natAt b 544 8 } }

/-- Times of a thread, whose run time is only kept as a whole. -/
def threadLayout : RecordLayout ThreadTimes where
  size := 128
  read b := { id := (Bytes.intAt b 32 4).toNat, user := secondsAt b 88, system := 0.0 }

/-! ### Descriptors and sockets -/

structure FileRecord where
  type : Nat
  /-- Address of what is behind the descriptor. -/
  target : Nat
  fd : Int
  deriving Repr, DecidableEq, Inhabited

namespace FileRecord

def layout : RecordLayout FileRecord where
  size := 120
  read b := { type := Bytes.natAt b 16 4, target := Bytes.natAt b 64 8, fd := Bytes.intAt b 108 4 }

def isDescriptor (f : FileRecord) : Bool := f.fd ≥ 0

def isSocket (f : FileRecord) : Bool := f.type == 2

end FileRecord

def inet6 : Nat := 24

structure SocketRecord where
  /-- Address of the socket, by which descriptors find it. -/
  socket : Nat
  state : Int
  localEnd : Option Address
  remoteEnd : Option Address
  deriving Inhabited

def SocketRecord.layout : RecordLayout SocketRecord where
  size := 640
  read b := {
    socket := Bytes.natAt b 16 8, state := Bytes.intAt b 48 4, localEnd := address? inet6 ((b.drop 72).take 264)
    remoteEnd := address? inet6 ((b.drop 336).take 264) }

def socketTables : List (String × FamilySet × SocketTypeSet) :=
  [("net.inet.tcp.pcblist", .inet, .stream), ("net.inet.udp.pcblist", .inet, .datagram),
    ("net.inet6.tcp6.pcblist", .inet6, .stream), ("net.inet6.udp6.pcblist", .inet6, .datagram),
    ("net.local.stream.pcblist", .unix, .stream), ("net.local.dgram.pcblist", .unix, .datagram),
    ("net.local.seqpacket.pcblist", .unix, .seqPacket)]

abbrev KindedSocket := FamilySet × SocketTypeSet × SocketRecord

/-- Connections of the descriptors whose sockets are listed; of sockets at one address the first counts. -/
def joinSockets (files : List FileRecord) (sockets : List KindedSocket) (pid : Pid) : List Connection :=
  (files.filter fun f => f.isSocket && f.isDescriptor).filterMap fun f => do
    let (family, kind, s) ← sockets.find? fun s => s.2.2.socket == f.target
    return {
      fd := f.fd, family, kind, localEnd := s.localEnd, remoteEnd := s.remoteEnd.filter fun a => !isUnset a
      status := if kind == .stream && family != .unix then .ofBsdState s.state else .none, pid := some pid }

/-! ### The system -/

structure MemoryCounts where
  numbers : List Int
  deriving Repr, DecidableEq, Inhabited

namespace MemoryCounts

def size : Nat := 1304

def ofBytes (b : Bytes) : MemoryCounts where
  numbers := (List.range 35).map fun i => Bytes.intAt b (i * 8) 8

/-- A number by its place; a negative one counts as zero. -/
def count (c : MemoryCounts) (index : Nat) : Nat := (c.numbers.getD index 0).toNat

def bytes (c : MemoryCounts) (index : Nat) : Outcome Nat := Word.mul (c.count index) (c.count 0)

end MemoryCounts

/-- Counters of a device; only the time that it was busy at all is kept. -/
structure DeviceRecord where
  type : Int
  name : String
  counters : DiskIoCounters
  deriving Repr, DecidableEq, Inhabited

def DeviceRecord.layout : RecordLayout DeviceRecord where
  size := 104
  read b :=
    let busy := Bytes.natAt b 64 4 * 1000 + Bytes.natAt b 68 4 / 1000
    { type := Bytes.intAt b 20 4, name := Bytes.stringAt b 0 16
      counters := {
        readCount := Bytes.natAt b 72 8, writeCount := Bytes.natAt b 80 8, readBytes := Bytes.natAt b 88 8
        writeBytes := Bytes.natAt b 96 8, readTime := busy, writeTime := busy, busyTime := some busy } }

end HostProbe.NetBSD
