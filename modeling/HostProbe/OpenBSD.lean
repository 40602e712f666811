import HostProbe.BSD.Platform
import HostProbe.OpenBSD.Records
import HostProbe.Procfs.Tree

/-! OpenBSD as a platform. -/
namespace HostProbe.OpenBSD

open BSD

def processTable (rule argument : Int) : Mib := Sysctl.mib [1, 66, rule, argument]

def info (p : Probe) (pid : Pid) : Query ProcessInfo :=
  let size := ProcessEntry.layout.size
  processRecord size (readProcess p) ((processTable 1 pid).extend [size, 1]) pid "sysctl(kern.proc.pid)"

def live (p : Probe) : Liveness Program := livenessBy (info p)

def pids (p : Probe) : Query (List Pid) := do
  let table ← Sysctl.readTable p.context.buffers ProcessEntry.layout (processTable 0 0) "sysctl(kern.proc.all)"
  return table.map ProcessEntry.pid

/-! ### The system -/

/-- Spinning on a lock is time spent in the kernel. -/
def timesOfTicks (p : Probe) (ticks : List Nat) : CpuTimes :=
  let seconds (state : Nat) : Float := Real.ofNat (ticks.getD state 0) / p.clockTicks
  { user := seconds 0, nice := some (seconds 1), system := seconds 2 + seconds 3, interrupt := some (seconds 4)
    idle := seconds 5 }

def tickStates : Nat := 6

def cpuTimes (p : Probe) : Query CpuTimes := do
  let b ← Sysctl.value (Sysctl.mib [1, 40]) "sysctl(kern.cp_time)" (tickStates * 8)
  return timesOfTicks p ((List.range tickStates).map fun i => (Bytes.intAt b (i * 8) 8).toNat)

def perCpuTimes (p : Probe) : Query (List CpuTimes) := do
  (List.range (← Sysctl.processors)).mapM fun (cpu : Nat) => do
    let b ← Sysctl.value (Sysctl.mib [1, 71, (cpu : Int)]) "sysctl(kern.cp_time2)" (tickStates * 8)
    return timesOfTicks p ((List.range tickStates).map fun i => Bytes.natAt b (i * 8) 8)

def memoryCounts : Query MemoryCounts := do
  return .ofBytes (← Sysctl.value (Sysctl.mib [2, 4]) "sysctl(vm.uvmexp)" MemoryCounts.size)

def cpuStats : Query CpuStats := do
  let c ← memoryCounts
  return {
    contextSwitches := c.count 36, interrupts := c.count 35, softInterrupts := c.count 37
    systemCalls := c.count 38 }

def cpuFrequency : Query CpuFrequency := do
  return { current := Real.ofInt (← Sysctl.intValue (Sysctl.mib [6, 12]) "sysctl(hw.cpuspeed)" 4) }

def virtualMemory : Query VirtualMemory := do
  let total ← Sysctl.intValue (Sysctl.mib [6, 19]) "sysctl(hw.physmem64)" 8
  let c ← memoryCounts
  let (free, active, inactive, wired) := (c.bytes 4, c.bytes 5, c.bytes 6, c.bytes 8)
  return {
    total := total.toNat, available := ← Query.lift (Word.add inactive free)
    used := ← Query.lift (Word.add active wired), free, active := some active, inactive := some inactive
    wired := some wired }

def swapMemory : Query SwapMemory := do
  let c ← memoryCounts
  let (total, used) := (c.bytes 26, c.bytes 27)
  return { total, used, free := total - used, swappedIn := c.bytes 42, swappedOut := c.bytes 43 }

def diskIoCounters (p : Probe) : Query (Table DiskIoCounters) := do
  let bytes ← Sysctl.readBytes p.context.buffers (Sysctl.mib [6, 9]) "sysctl(hw.diskstats)"
  return Table.ofList (← Query.lift ((Bytes.records diskSize bytes).mapM readDisk))

def interfaces : InterfaceDialect where
  sockets := .bsd inet6
  tellsMedia := false

def loginFile : String := "/var/run/utmp"

def users : Query (List User) := do
  return sessionsIn (← Query.onPath "read" loginFile (Ask.file (.read loginFile)))

/-! ### Processes -/

/-- Arguments or environment of a process, which lie in a block with pointers to them. -/
def strings (p : Probe) (pid : Pid) (which : Int) (call : String) : Query (List String) := do
  Query.lift (checkPid pid)
  let longest ← Sysctl.intValue (Sysctl.mib [1, 8]) "sysctl(kern.argmax)" 4
  let block ← (live p).classifyFor pid
    (Sysctl.readFrom p.context.buffers (Sysctl.mib [1, 55, pid, which]) call (max longest 4096).toNat)
  return stringsOfBlock block

def workingDirectory (p : Probe) (pid : Pid) : Query String := do
  Query.lift (checkPid pid)
  return Bytes.cString
    (← (live p).classifyFor pid (Sysctl.value (Sysctl.mib [1, 78, pid]) "sysctl(kern.proc_cwd)" 1024))

def threads (p : Probe) (pid : Pid) : Query (List ThreadTimes) := do
  Query.lift (checkPid pid)
  let table := processTable 0x40000001 pid
  let entries ← (live p).classifyFor pid
    (Sysctl.readTable p.context.buffers ProcessEntry.layout table "sysctl(kern.proc.pid)")
  return (entries.filter fun e => e.thread ≥ 0).map ProcessEntry.times

def files (p : Probe) (pid : Pid) : Query (List FileRecord) := do
  Query.lift (checkPid pid)
  (live p).classifyFor pid
    (Sysctl.readTable p.context.buffers FileRecord.layout (Sysctl.mib [1, 73, 2, pid]) "sysctl(kern.file)")

def connections (p : Probe) (pid : Pid) (filter : ConnectionFilter) : Query (List Connection) := do
  return connectionsIn (← files p pid) pid filter

def dialect (p : Probe) : Dialect where
  probe := p
  interfaces
  mounts := .openbsd
  bootTime := Sysctl.bootTime 21 8
  cpuTimes := cpuTimes p
  perCpuTimes := perCpuTimes p
  cpuCountCores := notOffered "cpu_count_cores"
  cpuStats
  cpuFrequency
  virtualMemory
  swapMemory
  diskIoCounters := diskIoCounters p
  netIoCounters := BSD.netIoCounters interfaces
  netConnections filter := connectionsOfAll (pids p) fun pid => connections p pid filter
  users
  pids := pids p
  info := info p
  exe _ := notOffered "proc_exe"
  commandLine pid := strings p pid 1 "sysctl(kern.proc_args.argv)"
  environment pid := strings p pid 3 "sysctl(kern.proc_args.env)"
  workingDirectory := workingDirectory p
  threads := threads p
  openFiles _ := notOffered "proc_open_files"
  descriptorCount pid := do return ((← files p pid).filter FileRecord.isDescriptor).length
  connections := connections p

def platform (p : Probe) : Platform := BSD.platform (dialect p)

end HostProbe.OpenBSD
