import HostProbe.BSD.Platform
import HostProbe.NetBSD.Records

/-! NetBSD as a platform. -/
namespace HostProbe.NetBSD

open BSD

def info (p : Probe) (pid : Pid) : Query ProcessInfo :=
  let size := pidLayout.size
  processRecord size (readProcess p) (Sysctl.mib [1, 47, 1, pid, size, 1]) pid "sysctl(kern.proc2.pid)"

def live (p : Probe) : Liveness Program := livenessBy (info p)

def pids (p : Probe) : Query (List Pid) :=
  Sysctl.readTable p.context.buffers pidLayout (Sysctl.mib [1, 47, 0, 0]) "sysctl(kern.proc2.all)"

/-! ### The system -/

def timesOfTicks (p : Probe) (ticks : List Nat) : CpuTimes :=
  let seconds (state : Nat) : Float := Real.ofNat (ticks.getD state 0) / p.clockTicks
  { user := seconds 0, nice := some (seconds 1), system := seconds 2, interrupt := some (seconds 3), idle := seconds 4 }

def tickStates : Nat := 5

def ticksOf (b : Bytes) : List Nat := (List.range tickStates).map fun i => Bytes.natAt b (i * 8) 8

def cpuTimes (p : Probe) : Query CpuTimes := do
  return timesOfTicks p (ticksOf (← Sysctl.named "kern.cp_time" (tickStates * 8)))

def perCpuTimes (p : Probe) : Query (List CpuTimes) := do
  let mib ← Sysctl.resolve "kern.cp_time"
  (List.range (← Sysctl.processors)).mapM fun (cpu : Nat) => do
    return timesOfTicks p (ticksOf (← Sysctl.value (mib.extend [(cpu : Int)]) "sysctl(kern.cp_time.N)" (tickStates * 8)))

def memoryCounts : Query MemoryCounts := do
  return .ofBytes (← Sysctl.value (Sysctl.mib [2, 5]) "sysctl(vm.uvmexp2)" MemoryCounts.size)

def cpuStats : Query CpuStats := do
  let c ← memoryCounts
  return {
    contextSwitches := c.count 27, interrupts := c.count 26, softInterrupts := c.count 28
    systemCalls := c.count 29 }

def virtualMemory : Query VirtualMemory := do
  let total ← Sysctl.intValue (Sysctl.mib [6, 13]) "sysctl(hw.physmem64)" 8
  let c ← memoryCounts
  let bytes (index : Nat) : Query Nat := Query.lift (c.bytes index)
  let free ← bytes 4
  let inactive ← bytes 6
  let active ← bytes 5
  let wired ← bytes 8
  return {
    total := total.toNat, available := ← Query.lift (Word.add inactive free)
    used := ← Query.lift (Word.add active wired), free, active := some active, inactive := some inactive
    wired := some wired }

def swapMemory : Query SwapMemory := do
  let c ← memoryCounts
  let bytes (index : Nat) : Query Nat := Query.lift (c.bytes index)
  let total ← bytes 17
  let used ← bytes 18
  return { total, used, free := total - used, swappedIn := ← bytes 33, swappedOut := ← bytes 34 }

def diskIoCounters (p : Probe) : Query (Table DiskIoCounters) := do
  let layout := DeviceRecord.layout
  let bytes ← Sysctl.readBytes p.context.buffers (Sysctl.mib [6, 9, layout.size]) "sysctl(hw.iostats)"
  return Table.ofList (((layout.all bytes).filter fun d => d.type == 0).map fun d => (d.name, d.counters))

def interfaces : InterfaceDialect where
  sockets := .bsd inet6

def logins : Posix.LoginLayout := ⟨7, 32, 32, 256⟩

/-! ### Processes -/

def arguments (p : Probe) (pid : Pid) (which : Int) (call : String) : Query Bytes :=
  p.processNode (live p) pid (Sysctl.mib [1, 48, pid, which]) call

def threads (p : Probe) (pid : Pid) : Query (List ThreadTimes) := do
  Query.lift (checkPid pid)
  (live p).classifyFor pid
    (Sysctl.readTable p.context.buffers threadLayout (Sysctl.mib [1, 64, pid]) "sysctl(kern.lwp)")

def files (p : Probe) (pid : Pid) : Query (List FileRecord) := do
  Query.lift (checkPid pid)
  (live p).classifyFor pid
    (Sysctl.readTable p.context.buffers FileRecord.layout (Sysctl.mib [1, 77, 2, pid]) "sysctl(kern.file2)")

def sockets (p : Probe) (filter : ConnectionFilter) : Query (List KindedSocket) := do
  let found ← socketTables.mapM fun (name, family, kind) => do
    if !filter.wants family kind then return []
    let mib ← Sysctl.resolve name
    let table ← Sysctl.readTable p.context.buffers SocketRecord.layout mib name
    return table.map fun s => (family, kind, s)
  return found.flatten

def connections (p : Probe) (pid : Pid) (filter : ConnectionFilter) : Query (List Connection) := do
  let files ← files p pid
  return joinSockets files (← sockets p filter) pid

def netConnections (p : Probe) (filter : ConnectionFilter) : Query (List Connection) := do
  let sockets ← sockets p filter
  connectionsOfAll (pids p) fun pid => do return joinSockets (← files p pid) sockets pid

def dialect (p : Probe) : Dialect where
  probe := p
  interfaces
  mounts := .netbsd
  bootTime := Sysctl.bootTime 83 4
  cpuTimes := cpuTimes p
  perCpuTimes := perCpuTimes p
  cpuCountCores := notOffered "cpu_count_cores"
  cpuStats
  cpuFrequency := notOffered "cpu_freq"
  virtualMemory
  swapMemory
  diskIoCounters := diskIoCounters p
  netIoCounters := BSD.netIoCounters interfaces
  netConnections := netConnections p
  users := Posix.users logins
  pids := pids p
  info := info p
  exe pid := do return Bytes.cString (← arguments p pid 5 "sysctl(kern.proc_args.pathname)")
  commandLine pid := do return Bytes.splitNulStrings (← arguments p pid 1 "sysctl(kern.proc_args.argv)")
  environment pid := do return Bytes.splitNulStrings (← arguments p pid 3 "sysctl(kern.proc_args.env)")
  workingDirectory pid := do return Bytes.cString (← arguments p pid 6 "sysctl(kern.proc_args.cwd)")
  threads := threads p
  openFiles _ := notOffered "proc_open_files"
  descriptorCount pid := do return ((← files p pid).filter FileRecord.isDescriptor).length
  connections := connections p

def platform (p : Probe) : Platform := BSD.platform (dialect p)

end HostProbe.NetBSD
