import HostProbe.Linux.Control
import HostProbe.Linux.Descriptors
import HostProbe.Linux.Links
import HostProbe.Linux.Processors
import HostProbe.Linux.Sensors
import HostProbe.Linux.Sockets
import HostProbe.Platform
import HostProbe.Posix.System
import HostProbe.Posix.Process
import HostProbe.Procfs.Blocks
import HostProbe.Procfs.Disks
import HostProbe.Procfs.Meminfo

/-! Linux as a platform: most answers come from the process file system, some from calls. -/
namespace HostProbe.Linux

namespace Probe

def meminfo (p : Probe) : Query (Table Nat) := do Query.lift (Procfs.parseMeminfo (← p.procfs.read "meminfo"))

def virtualMemory (p : Probe) : Query VirtualMemory := do Query.lift (Procfs.virtualMemory (← p.meminfo))

/-- Swap space; some containers hide the file that counts the traffic. -/
def swapMemory (p : Probe) : Query SwapMemory := do
  let meminfo ← p.meminfo
  let vmstat ← (p.procfs.read "vmstat").answer?
  Query.lift (Procfs.swapMemory meminfo (vmstat.map Procfs.parseVmstat) p.pageSize)

def cpuStats (p : Probe) : Query CpuStats := do
  let stat ← p.stat
  return { contextSwitches := stat.contextSwitches, interrupts := stat.interrupts,
           softInterrupts := stat.softInterrupts }

/-- Mounts that the process itself sees, or else those of the system. -/
def diskPartitions (p : Probe) (all : Bool) : Query (List Partition) := do
  let mounts ← match ← (p.procfs.read "self/mounts").answer? with
    | some mounts => pure mounts
    | none => p.procfs.read "mounts"
  if all then return Procfs.parseMounts mounts none
  return Procfs.parseMounts mounts (some (Procfs.parsePhysicalFilesystems (← p.procfs.read "filesystems")))

def blockBytes (p : Probe) (pid : Pid) (name : String) : Query Bytes := do
  Query.lift (checkPid pid)
  p.live.classifyFor pid (p.procfs.readPidBytes pid name)

def ids (p : Probe) (pid : Pid) (key : String) : Query ProcessIds :=
  p.processRecord pid "status" fun text => Procfs.statusIds (Procfs.parseStatus text) key

def contextSwitches (p : Probe) (pid : Pid) : Query ContextSwitches := do
  Query.lift (Procfs.statusContextSwitches (Procfs.parseStatus (← p.processText pid "status")))

end Probe

def platform (p : Probe) : Platform where
  bootTime := p.bootTime
  cpuTimes := do return (← p.stat).total
  perCpuTimes := do return (← p.stat).perCpu
  cpuCountLogical := p.cpuCountLogical
  cpuCountCores := p.cpuCountCores
  cpuStats := p.cpuStats
  cpuFrequency := p.cpuFrequency
  loadAverage := .ofQuery do Query.lift (Procfs.parseLoadAverage (← p.procfs.read "loadavg"))
  virtualMemory := p.virtualMemory
  swapMemory := p.swapMemory
  diskPartitions := p.diskPartitions
  diskUsage := Posix.diskUsage
  diskIoCounters := do Query.lift (Procfs.parseDiskstats (← p.procfs.read "diskstats"))
  netIoCounters := do Query.lift (Procfs.parseNetDev (← p.procfs.read "net/dev"))
  netAddresses := Posix.netAddresses .linux
  netStats := netStats
  netConnections filter := p.connections filter none
  users := Posix.users .linux
  pids := p.procfs.pids
  pidExists pid := p.pidExists pid
  battery := p.battery
  temperatures := p.temperatures
  name pid := do return (← p.processStat pid).name
  exe := p.exe
  commandLine pid := do return Procfs.splitCommandLine (← p.blockBytes pid "cmdline")
  environment pid := do return Environment.ofEntries (Bytes.splitNulStrings (← p.blockBytes pid "environ"))
  workingDirectory := p.workingDirectory
  parent pid := do return (← p.processStat pid).ppid
  status pid := do return .ofLetter (← p.processStat pid).state
  userIds pid := p.ids pid "Uid"
  groupIds pid := p.ids pid "Gid"
  terminal := p.terminal
  createTime := p.createTime
  processCpuTimes pid := do return p.cpuTimesOfStat (← p.processStat pid)
  memoryInfo := p.memoryInfo
  memoryFullInfo := p.memoryFullInfo
  memoryMaps pid := p.processRecord pid "smaps" Procfs.parseSmaps
  threadCount pid := do return (← p.processStat pid).threads
  threads := p.threads
  contextSwitches := p.contextSwitches
  ioCounters pid := p.processRecord pid "io" Procfs.parseIo
  openFiles := p.openFiles
  descriptorCount := p.descriptorCount
  connections pid filter := do
    Query.lift (checkPid pid)
    p.connections filter (some pid)
  nice pid := Posix.getPriority p.live pid
  setNice pid value := Posix.setPriority p.live pid value
  cpuAffinity := p.cpuAffinity
  setCpuAffinity := p.setCpuAffinity
  resourceLimit := p.resourceLimit
  sendSignal pid signal := Posix.sendSignal .linux p.live pid signal
  isZombie pid := do return (← p.processStat pid).state == 'Z'

end HostProbe.Linux
