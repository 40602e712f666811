import HostProbe.RecordLayout
import HostProbe.Record.System
import HostProbe.Record.Network
import HostProbe.Record.Process
import HostProbe.Text.Utf16
import HostProbe.Word

/-! Records in the buffers that a Windows kernel fills. -/
namespace HostProbe.Windows

/-! ### Times and strings -/

/-- Ticks of 100 nanoseconds in a second, and from the beginning of 1601 to that of 1970. -/
def ticksPerSecond : Float := 10000000.0
def unixEpoch : Int := 116444736000000000

def seconds (ticks : Int) : Float := Real.ofInt ticks / ticksPerSecond

/-- Seconds since 1970 of a time in ticks since 1601. -/
def unixTime (ticks : Int) : Outcome Float := do return seconds (← Word.checkSigned 64 (ticks - unixEpoch))

def untilZero (units : List UInt16) : List UInt16 := units.takeWhile (· != 0)

def wideText (units : List UInt16) : String := Utf16.toString (untilZero units)

def unitsOfBytes : Bytes → List UInt16
  | low :: high :: rest => UInt16.ofNat (low.toNat + 256 * high.toNat) :: unitsOfBytes rest
  | _ => []

/-- Texts that are each ended by a zero; an empty one ends them all. -/
def splitTexts (units : List UInt16) : List String :=
  ((units.splitOn 0).takeWhile fun t => !t.isEmpty).map Utf16.toString

def splitEnvironment (bytes : Bytes) : List String := splitTexts (unitsOfBytes bytes)

structure StringPlace where
  length : Nat
  address : Nat
  deriving Repr, DecidableEq, Inhabited

namespace StringPlace

def layout : RecordLayout StringPlace where
  size := 16
  read b := { length := Bytes.natAt b 0 2, address := Bytes.natAt b 8 8 }

def text? (s : StringPlace) (bytes : Bytes) (address : Nat) : Option String :=
  if s.address < address then none
  else (Bytes.slice? bytes (s.address - address) s.length).map fun b => wideText (unitsOfBytes b)

end StringPlace

/-! ### Processes -/

structure ThreadEntry where
  id : Nat
  user : Float
  system : Float
  contextSwitches : Nat
  suspended : Bool
  deriving Inhabited

/-- A thread is suspended when it waits for that reason. -/
def ThreadEntry.layout : RecordLayout ThreadEntry where
  size := 80
  read b := {
    id := Bytes.natAt b 48 8, user := seconds (Bytes.intAt b 8 8), system := seconds (Bytes.intAt b 0 8)
    contextSwitches := Bytes.natAt b 64 4, suspended := Bytes.natAt b 68 4 == 5 && Bytes.natAt b 72 4 == 5 }

structure ProcessEntry where
  pid : Pid
  parent : Pid
  name : String
  threadCount : Nat
  createTime : Float
  cpuTimes : ProcessCpuTimes
  memory : ProcessMemory
  io : IoCounters
  handles : Nat
  threads : List ThreadEntry
  deriving Inhabited

namespace ProcessEntry

/-- Size of an entry without its threads, and the place of what leads to the next one. -/
def size : Nat := 256

def idleName : String := "System Idle Process"

/-- Counters that went below zero count as zero. -/
def counter (b : Bytes) (offset : Nat) : Nat := (Bytes.intAt b offset 8).toNat

/-- A process is stopped when it has threads and all of them are suspended. -/
def status (e : ProcessEntry) : ProcessStatus :=
  if !e.threads.isEmpty && e.threads.all ThreadEntry.suspended then .stopped else .running

def threadsIn (rest : Bytes) (count : Nat) : List ThreadEntry :=
  ThreadEntry.layout.all ((rest.drop size).take (count * ThreadEntry.layout.size))

/-- The entry at the beginning of the rest of a list that lies at an address; names may lie anywhere in it. -/
def read (list : Bytes) (address : Nat) (rest : Bytes) : ProcessEntry :=
  let b := rest.take size
  let pid := Word.toInt 32 (Bytes.natAt b 80 8)
  let created := Bytes.intAt b 32 8
  let name : StringPlace := StringPlace.layout.read (b.drop 56)
  { pid
    parent := Word.toInt 32 (Bytes.natAt b 88 8)
    name := if pid = 0 then idleName else (name.text? list address).getD ""
    threadCount := Bytes.natAt b 4 4
    createTime := if created > 0 then seconds (created - unixEpoch) else 0.0
    cpuTimes := { user := seconds (Bytes.intAt b 40 8), system := seconds (Bytes.intAt b 48 8) }
    memory := {
      rss := Bytes.natAt b 144 8, vms := Bytes.natAt b 184 8, pageFaults := some (Bytes.natAt b 128 4)
      peakRss := some (Bytes.natAt b 136 8) }
    io := {
      readCount := counter b 208, writeCount := counter b 216, readBytes := counter b 232
      writeBytes := counter b 240 }
    handles := Bytes.natAt b 96 4
    threads := threadsIn rest (Bytes.natAt b 4 4) }

/-- The remaining entries, each telling how far it is to the next; the last tells zero. -/
def listFrom (list : Bytes) (address : Nat) (rest : Bytes) (found : List ProcessEntry) : List ProcessEntry :=
  if (rest.take size).length < size then found.reverse
  else
    let found := read list address rest :: found
    let next := Bytes.natAt rest 0 4
    if next = 0 then found.reverse else listFrom list address (rest.drop next) found
termination_by rest.length
decreasing_by simp [size] at *; omega

def list (bytes : Bytes) (address : Nat) : List ProcessEntry := listFrom bytes address bytes []

end ProcessEntry

/-! ### Handles -/

def handlesOf (table : Bytes) (pid : Pid) : List Nat :=
  if table.length < 16 then []
  else
    let entries := (Bytes.records 40 (table.drop 16)).take (Bytes.natAt table 0 8)
    entries.filterMap fun b => if Bytes.natAt b 8 8 = Word.ofInt 64 pid then some (Bytes.natAt b 16 8) else none

/-! ### Processors -/

structure ProcessorTicks where
  idle : Int
  kernel : Int
  user : Int
  deferred : Int
  interrupt : Int
  interrupts : Nat
  deriving Repr, DecidableEq, Inhabited

def ProcessorTicks.layout : RecordLayout ProcessorTicks where
  size := 48
  read b := {
    idle := Bytes.intAt b 0 8, kernel := Bytes.intAt b 8 8, user := Bytes.intAt b 16 8
    deferred := Bytes.intAt b 24 8, interrupt := Bytes.intAt b 32 8, interrupts := Bytes.natAt b 40 4 }

structure SwitchCounts where
  contextSwitches : Nat
  deferredCalls : Nat
  deriving Repr, DecidableEq, Inhabited

def SwitchCounts.layout : RecordLayout SwitchCounts where
  size := 24
  read b := { contextSwitches := Bytes.natAt b 0 4, deferredCalls := Bytes.natAt b 4 4 }

/-- Kernel time holds idle time, which is told apart. -/
def cpuTimesOf (idle kernel user : Int) : Outcome CpuTimes := do
  return { user := seconds user, system := seconds (← Word.checkSigned 64 (kernel - idle)), idle := seconds idle }

def ProcessorTicks.times (t : ProcessorTicks) : Outcome CpuTimes := do
  return {
    ← cpuTimesOf t.idle t.kernel t.user with
    interrupt := some (seconds t.interrupt), dpc := some (seconds t.deferred) }

/-- Place of the count of system calls among the kernel's counters; counters that a kernel lacks are zero. -/
def systemCallsOffset : Nat := 32 + 69 * 4

def countRecords (rest : Bytes) (found : Nat) : Nat :=
  if (rest.take 8).length < 8 then found
  else
    let size := Bytes.natAt rest 4 4
    if size = 0 then found else countRecords (rest.drop size) (found + 1)
termination_by rest.length
decreasing_by simp at *; omega

def clockOf (b : Bytes) : CpuFrequency where
  current := Real.ofNat (Bytes.natAt b 8 4)
  max := Real.ofNat (Bytes.natAt b 4 4)

/-! ### Disks -/

def diskRecordSize : Nat := 88

def diskCountersOf (b : Bytes) : DiskIoCounters where
  readCount := Bytes.natAt b 40 4
  writeCount := Bytes.natAt b 44 4
  readBytes := (Bytes.intAt b 0 8).toNat
  writeBytes := (Bytes.intAt b 8 8).toNat
  readTime := (Bytes.intAt b 16 8).toNat / 10000
  writeTime := (Bytes.intAt b 24 8).toNat / 10000

/-! ### Sockets -/

def statusOfState : Nat → ConnectionStatus
  | 1 => .close
  | 2 => .listen
  | 3 => .synSent
  | 4 => .synReceived
  | 5 => .established
  | 6 => .finWait1
  | 7 => .finWait2
  | 8 => .closeWait
  | 9 => .closing
  | 10 => .lastAck
  | 11 => .timeWait
  | 12 => .deleteTcb
  | _ => .none

def endAt (v6 : Bool) (b : Bytes) (offset portOffset : Nat) : Option SocketAddress := do
  let ip ← if v6 then IpAddress.v6? ((b.drop offset).take 16) else IpAddress.v4? ((b.drop offset).take 4)
  return { ip, port := Bytes.toNatBig ((b.drop portOffset).take 2) }

/-- Where listening sockets and those without a peer would have one, there is none. -/
def peer? (status : ConnectionStatus) (a : SocketAddress) : Option Address :=
  if status == .listen || (a.ip.isUnspecified && a.port == 0) then none else some (.inet a)

structure SocketLayout where
  size : Nat
  v6 : Bool
  localEnd : Nat
  localPort : Nat
  /-- Address, port and state, for sockets that have peers. -/
  remote : Option (Nat × Nat × Nat) := none
  owner : Nat
  deriving Repr, DecidableEq, Inhabited

namespace SocketLayout

def tcp4 : SocketLayout where
  size := 24
  v6 := false
  localEnd := 4
  localPort := 8
  remote := some (12, 16, 0)
  owner := 20

def tcp6 : SocketLayout where
  size := 56
  v6 := true
  localEnd := 0
  localPort := 20
  remote := some (24, 44, 48)
  owner := 52

def udp4 : SocketLayout where
  size := 12
  v6 := false
  localEnd := 0
  localPort := 4
  owner := 8

def udp6 : SocketLayout where
  size := 28
  v6 := true
  localEnd := 0
  localPort := 20
  owner := 24

def family (layout : SocketLayout) : FamilySet := if layout.v6 then .inet6 else .inet

def kind (layout : SocketLayout) : SocketTypeSet := if layout.remote.isSome then .stream else .datagram

def connection (layout : SocketLayout) (b : Bytes) : Connection :=
  let status := layout.remote.elim .none fun (_, _, state) => statusOfState (Bytes.natAt b state 4)
  { fd := -1
    family := layout.family
    kind := layout.kind
    localEnd := (endAt layout.v6 b layout.localEnd layout.localPort).map .inet
    remoteEnd := layout.remote.bind fun (address, port, _) => (endAt layout.v6 b address port).bind (peer? status)
    status
    pid := some (Word.toInt 32 (Bytes.natAt b layout.owner 4)) }

def connections (layout : SocketLayout) (table : Bytes) : List Connection :=
  if table.length < 4 then []
  else ((Bytes.records layout.size (table.drop 4)).take (Bytes.natAt table 0 4)).map layout.connection

end SocketLayout
end HostProbe.Windows
