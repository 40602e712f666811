import HostProbe.Linux

/-! Cygwin as a platform: a process file system like that of Linux with fewer files, and signals that show which
processes are there. -/
namespace HostProbe.Cygwin

open Linux

def probe (context : Context) : Program Probe := do return { ← Probe.new context with evidence := .signals }

/-- Drive letters and the installation's root are real volumes, other mounts are not. -/
def isVolume (partition : Partition) : Bool :=
  partition.device.toList.contains ':' || partition.device.toList.head? == some '/'

def diskPartitions (p : Probe) (all : Bool) : Query (List Partition) := do
  let partitions := Procfs.parseMounts (← p.procfs.read "mounts") none
  return if all then partitions else partitions.filter isVolume

/-- Processors that are online, or else those that `stat` lists. -/
def cpuCountLogical (p : Probe) : Query Nat := do
  let online ← (Ask.posix (.setting .processors) : Program Int)
  if online > 0 then return online.toNat
  return (← p.stat).perCpu.length

def memoryInfo (p : Probe) (pid : Pid) : Query ProcessMemory := do
  let statm ← p.processRecord pid "statm" Procfs.Statm.parse
  Query.lift (p.memoryOfPages statm (← p.processStat pid) none)

def platform (p : Probe) : Platform where
  bootTime := p.bootTime
  cpuTimes := do return (← p.stat).total
  perCpuTimes := do return (← p.stat).perCpu
  cpuCountLogical := cpuCountLogical p
  cpuStats := p.cpuStats
  loadAverage := .ofQuery do Query.lift (Procfs.parseLoadAverage (← p.procfs.read "loadavg"))
  virtualMemory := p.virtualMemory
  swapMemory := do Query.lift (Procfs.swapMemory (← p.meminfo) none p.pageSize)
  diskPartitions := diskPartitions p
  diskUsage := Posix.diskUsage
  pids := p.procfs.pids
  pidExists pid := p.pidExists pid
  name pid := do return (← p.processStat pid).name
  exe := p.executableLink
  commandLine pid := do return Bytes.splitNulStrings (← p.blockBytes pid "cmdline")
  environment pid := do return Environment.ofEntries (Bytes.splitNulStrings (← p.blockBytes pid "environ"))
  workingDirectory := p.workingDirectory
  parent pid := do return (← p.processStat pid).ppid
  status pid := do return .ofLetter (← p.processStat pid).state
  userIds pid := p.ids pid "Uid"
  groupIds pid := p.ids pid "Gid"
  createTime := p.createTime
  processCpuTimes pid := do return p.cpuTimesOfStat (← p.processStat pid)
  memoryInfo := memoryInfo p
  threadCount pid := do return (← p.processStat pid).threads
  openFiles := p.openFiles
  descriptorCount := p.descriptorCount
  nice pid := Posix.getPriority p.live pid
  setNice pid value := Posix.setPriority p.live pid value
  sendSignal pid signal := Posix.sendSignal .linux p.live pid signal
  isZombie pid := do return (← p.processStat pid).state == 'Z'

end HostProbe.Cygwin
