import HostProbe.BSD.Network
import HostProbe.BSD.Mounts
import HostProbe.BSD.Process
import HostProbe.Platform
import HostProbe.Posix.System
import HostProbe.Procfs.Blocks

/-! What the systems of this family share: their platform is put together from the queries in which they differ. -/
namespace HostProbe.BSD

structure Dialect where
  probe : Probe
  interfaces : InterfaceDialect
  mounts : MountDialect
  signals : Posix.SignalNumbers := .bsd
  bootTime : Query Float
  cpuTimes : Query CpuTimes
  perCpuTimes : Query (List CpuTimes)
  cpuCountCores : Query Nat
  cpuStats : Query CpuStats
  cpuFrequency : Query CpuFrequency
  virtualMemory : Query VirtualMemory
  swapMemory : Query SwapMemory
  diskIoCounters : Query (Table DiskIoCounters)
  netIoCounters : Query (Table NetIoCounters)
  netConnections : ConnectionFilter → Query (List Connection)
  users : Query (List User)
  pids : Query (List Pid)
  /-- The record of a process, its failures not yet told apart. -/
  info : Pid → Query ProcessInfo
  exe : Pid → Query String
  commandLine : Pid → Query (List String)
  environment : Pid → Query (List String)
  workingDirectory : Pid → Query String
  threads : Pid → Query (List ThreadTimes)
  openFiles : Pid → Query (List OpenFile)
  descriptorCount : Pid → Query Nat
  connections : Pid → ConnectionFilter → Query (List Connection)

/-- Load averages; the kernel must know all three. -/
def loadAverage : Query LoadAverage := do
  match ← (Ask.posix .loadAverages : Program (Except IoError (List Float))) with
  | .ok [one, five, fifteen] => return { one, five, fifteen }
  | .ok (one :: five :: fifteen :: _) => return { one, five, fifteen }
  | .ok _ => Query.report (.os "getloadavg" (.number ErrorNumber.invalidArgument))
  | .error cause => Query.report (.os "getloadavg" cause)

/-- Terminal of a device number; some numbers have no name, or one that says as much. -/
def terminalName (number : Nat) : Program (Option String) := do
  match ← Ask.posix (.deviceName number) with
  | none => return none
  | some name => return if name.isEmpty || name == "??" then none else some s!"/dev/{name}"

/-- Connections of all processes; those that cannot be asked have none. -/
def connectionsOfAll (pids : Query (List Pid)) (connections : Pid → Query (List Connection)) :
    Query (List Connection) := do
  let found ← (← pids).mapM fun pid => (connections pid).answer?
  return (found.map fun cs => cs.getD []).flatten

def Probe.processNode (p : Probe) (live : Liveness Program) (pid : Pid) (mib : Mib) (call : String) :
    Query Bytes := do
  Query.lift (checkPid pid)
  live.classifyFor pid (Sysctl.readBytes p.context.buffers mib call)

/-- Times of processors whose ticks are listed one after the other; a last one with too few ticks is left out. -/
def splitTicks (states : Nat) (times : List Nat → CpuTimes) (ticks : List Nat) : List CpuTimes :=
  (List.range (ticks.length / states)).map fun i => times ((ticks.drop (i * states)).take states)

def platform (d : Dialect) : Platform :=
  let live := livenessBy d.info
  let info (pid : Pid) : Query ProcessInfo := do
    Query.lift (checkPid pid)
    live.classifyFor pid (d.info pid)
  { bootTime := d.bootTime
    cpuTimes := d.cpuTimes
    perCpuTimes := d.perCpuTimes
    cpuCountLogical := Sysctl.processors
    cpuCountCores := d.cpuCountCores
    cpuStats := d.cpuStats
    cpuFrequency := d.cpuFrequency
    loadAverage := .ofQuery loadAverage
    virtualMemory := d.virtualMemory
    swapMemory := d.swapMemory
    diskPartitions := partitions d.probe.context.buffers d.mounts
    diskUsage := Posix.diskUsage
    diskIoCounters := d.diskIoCounters
    netIoCounters := d.netIoCounters
    netAddresses := Posix.netAddresses d.interfaces.sockets
    netStats := netStats d.interfaces
    netConnections := d.netConnections
    users := d.users
    pids := d.pids
    pidExists := fun pid => Posix.pidExists pid
    name := fun pid => do return (← info pid).name
    exe := d.exe
    commandLine := d.commandLine
    environment := fun pid => do return Environment.ofEntries (← d.environment pid)
    workingDirectory := d.workingDirectory
    parent := fun pid => do return (← info pid).ppid
    status := fun pid => do return (← info pid).status
    userIds := fun pid => do return (← info pid).users
    groupIds := fun pid => do return (← info pid).groups
    terminal := fun pid => do
      match (← info pid).terminal with
      | none => return none
      | some number => terminalName number
    createTime := fun pid => do return (← info pid).createTime
    processCpuTimes := fun pid => do return (← info pid).times
    memoryInfo := fun pid => do return (← info pid).memory
    threadCount := fun pid => do
      match (← info pid).threads with
      | some count => return count
      | none => return (← d.threads pid).length
    threads := d.threads
    contextSwitches := fun pid => do return (← info pid).switches
    ioCounters := fun pid => do return (← info pid).io
    openFiles := d.openFiles
    descriptorCount := d.descriptorCount
    connections := fun pid filter => do
      Query.lift (checkPid pid)
      d.connections pid filter
    nice := fun pid => Posix.getPriority live pid
    setNice := fun pid value => Posix.setPriority live pid value
    sendSignal := fun pid signal => Posix.sendSignal d.signals live pid signal
    isZombie := fun pid => do return (← info pid).status == .zombie }

end HostProbe.BSD
