import HostProbe.BSD.Process
import HostProbe.BSD.Network
import HostProbe.Filter
import HostProbe.Record.System
import HostProbe.Record.Session
import HostProbe.Table

/-! Records of the kernel's tables and of the login file. -/
namespace HostProbe.OpenBSD

open BSD

def statusOfNumber : Int → ProcessStatus
  | 1 => .idle
  | 2 | 7 => .running
  | 3 => .sleeping
  | 4 => .stopped
  | 5 => .zombie
  | 6 => .dead
  | _ => .waiting

def secondsAt (b : Bytes) (offset : Nat) : Float := Sysctl.timeOf (Bytes.natAt b offset 4) (Bytes.natAt b (offset + 4) 4)

/-- Device number of a terminal; all ones stand for none. -/
def terminalOf (number : Nat) : Option Nat := if number = 0xffffffff then none else some number

/-- A process's own identifier and its thread's; the process itself is listed with a negative thread. -/
structure ProcessEntry where
  pid : Pid
  thread : Int
  times : ThreadTimes
  deriving Inhabited

def ProcessEntry.layout : RecordLayout ProcessEntry where
  size := 648
  read b :=
    let thread := Bytes.intAt b 608 4
    { pid := Bytes.intAt b 108 4, thread
      times := { id := thread.toNat, user := secondsAt b 420, system := secondsAt b 428 } }

/-- Reads the record of a process. User and system time of its children are only kept together. -/
def readProcess (p : Probe) (b : Bytes) : Outcome ProcessInfo := do
  let pages (offset : Nat) : Outcome Nat := p.bytesOfPages (Bytes.intAt b offset 4)
  let rss ← pages 384
  let text ← pages 388
  let data ← pages 392
  let vms ← Word.add (← Word.add text data) (← pages 396)
  return {
    pid := Bytes.intAt b 108 4
    ppid := Bytes.intAt b 112 4
    status := statusOfNumber (Bytes.intAt b 304 1)
    name := Bytes.stringAt b 312 24
    users := { real := Bytes.natAt b 132 4, effective := Bytes.natAt b 128 4, saved := Bytes.natAt b 568 4 }
    groups := { real := Bytes.natAt b 140 4, effective := Bytes.natAt b 136 4, saved := Bytes.natAt b 572 4 }
    terminal := terminalOf (Bytes.natAt b 212 4)
    createTime := Sysctl.timeOf (Bytes.intAt b 408 8) (Bytes.natAt b 416 4)
    times := { user := secondsAt b 420, system := secondsAt b 428, childrenUser := some (secondsAt b 552) }
    memory := { rss, vms, text, data, pageFaults := some (Bytes.natAt b 480 8) }
    threads := none
    switches := { voluntary := Bytes.natAt b 536 8, involuntary := Bytes.natAt b 544 8 }
    io := { readCount := Bytes.natAt b 496 8, writeCount := Bytes.natAt b 504 8 } }

/-- Strings behind a vector of pointers into the block itself, which lies at an address. A null pointer ends the vector,
and so does one that leads out of the block. -/
def stringsOfBlock (block : Reply) : List String := go block.bytes.length block.bytes []
where
  go : Nat → Bytes → List String → List String
    | 0, _, found => found.reverse
    | fuel + 1, rest, found =>
      match Bytes.slice? rest 0 8 with
      | none => found.reverse
      | some field =>
        let pointer := Bytes.toNat field
        let start := pointer - block.address
        if pointer = 0 || pointer < block.address || start ≥ block.bytes.length then found.reverse
        else go fuel (rest.drop 8) (Bytes.cString (block.bytes.drop start) :: found)

/-! ### Descriptors -/

structure FileRecord where
  type : Nat
  fd : Int
  family : Int
  kind : Int
  localOctets : Bytes
  localPort : Nat
  remoteOctets : Bytes
  remotePort : Nat
  path : String
  state : Int
  deriving Repr, DecidableEq, Inhabited

namespace FileRecord

/-- Ports and addresses are kept in network order. -/
def layout : RecordLayout FileRecord where
  size := 600
  read b := {
    type := Bytes.natAt b 16 4, fd := Bytes.intAt b 380 4, family := Bytes.intAt b 292 4
    kind := Bytes.intAt b 272 4, localOctets := (b.drop 308).take 16
    localPort := Bytes.toNatBig ((b.drop 304).take 2), remoteOctets := (b.drop 328).take 16
    remotePort := Bytes.toNatBig ((b.drop 324).take 2), path := Bytes.stringAt b 488 104
    state := Bytes.intAt b 596 4 }

def isDescriptor (f : FileRecord) : Bool := f.fd ≥ 0

def isSocket (f : FileRecord) : Bool := f.type == 2

end FileRecord

def inet6 : Nat := 24

def inetAddress? (family : FamilySet) (octets : Bytes) (port : Nat) : Option Address := do
  let ip ← if family == .inet then IpAddress.v4? (octets.take 4) else IpAddress.v6? octets
  return .inet { ip, port }

def connectionOf? (pid : Pid) (filter : ConnectionFilter) (f : FileRecord) : Option Connection := do
  let family ← familyOf? inet6 f.family
  let kind ← socketTypeOf? f.kind
  if !filter.selects family kind then none
  let isLocal := family == .unix
  return {
    fd := f.fd, family, kind
    localEnd := if isLocal then some (.unix f.path) else inetAddress? family f.localOctets f.localPort
    remoteEnd := if isLocal then none
      else (inetAddress? family f.remoteOctets f.remotePort).filter fun a => !isUnset a
    status := if kind == .stream && !isLocal then .ofBsdState f.state else .none
    pid := some pid }

def connectionsIn (files : List FileRecord) (pid : Pid) (filter : ConnectionFilter) : List Connection :=
  (files.filter fun f => f.isSocket && f.isDescriptor).filterMap (connectionOf? pid filter)

/-! ### The system -/

structure MemoryCounts where
  numbers : List Int
  deriving Repr, DecidableEq, Inhabited

namespace MemoryCounts

def size : Nat := 688

def ofBytes (b : Bytes) : MemoryCounts where
  numbers := (List.range (size / 4)).map fun i => Bytes.intAt b (i * 4) 4

/-- A number by its place; a negative one counts as zero. -/
def count (c : MemoryCounts) (index : Nat) : Nat := (c.numbers.getD index 0).toNat

def bytes (c : MemoryCounts) (index : Nat) : Nat := c.count index * c.count 0

end MemoryCounts

def millisecondsAt (b : Bytes) (offset : Nat) : Outcome Nat := do
  Word.add (← Word.mul (Bytes.intAt b offset 8).toNat 1000) ((Bytes.intAt b (offset + 8) 8).toNat / 1000)

def diskSize : Nat := 112

/-- Counters of a disk; only the time that it was busy at all is kept. -/
def readDisk (b : Bytes) : Outcome (String × DiskIoCounters) := do
  let busy ← millisecondsAt b 96
  return (Bytes.stringAt b 0 16, {
    readCount := Bytes.natAt b 24 8, writeCount := Bytes.natAt b 32 8, readBytes := Bytes.natAt b 48 8
    writeBytes := Bytes.natAt b 56 8, readTime := busy, writeTime := busy, busyTime := some busy })

/-- A session of the login file; an entry without a name is none. -/
def session? (b : Bytes) : Option User :=
  if Bytes.natAt b 8 1 = 0 then none
  else
    let host := Bytes.stringAt b 40 256
    some {
      name := Bytes.stringAt b 8 32, terminal := some (Bytes.stringAt b 0 8)
      host := if host.isEmpty then none else some host, started := Real.ofInt (Bytes.intAt b 296 8) }

def sessionsIn (bytes : Bytes) : List User := (Bytes.records 304 bytes).filterMap session?

end HostProbe.OpenBSD
