import HostProbe.Platform

/-! Questions to a platform by name, with answers as documents. -/
namespace HostProbe

inductive Question
  | bootTime
  | cpuTimes
  | perCpuTimes
  | cpuCountLogical
  | cpuCountCores
  | cpuStats
  | cpuFrequency
  | loadAverage
  | virtualMemory
  | swapMemory
  | diskPartitions
  | diskUsage
  | diskIoCounters
  | netIoCounters
  | netAddresses
  | netStats
  | netConnections
  | users
  | pids
  | pidExists
  | battery
  | temperatures
  | processName
  | exe
  | commandLine
  | environment
  | workingDirectory
  | parent
  | status
  | userIds
  | groupIds
  | terminal
  | createTime
  | processCpuTimes
  | memoryInfo
  | memoryFullInfo
  | memoryMaps
  | threadCount
  | threads
  | contextSwitches
  | ioCounters
  | openFiles
  | descriptorCount
  | connections
  | nice
  | cpuAffinity
  | resourceLimit
  | isZombie
  deriving Repr, DecidableEq, Inhabited

structure Subject where
  pid : Pid := 0
  path : String := "/"
  /-- Whether file systems without a device are listed, too. -/
  all : Bool := false
  filter : ConnectionFilter := .inet
  resource : Resource := .openFiles
  deriving Inhabited

namespace Question

def all : List Question :=
  [bootTime, cpuTimes, perCpuTimes, cpuCountLogical, cpuCountCores, cpuStats, cpuFrequency, loadAverage,
    virtualMemory, swapMemory, diskPartitions, diskUsage, diskIoCounters, netIoCounters, netAddresses, netStats,
    netConnections, users, pids, pidExists, battery, temperatures, processName, exe, commandLine, environment,
    workingDirectory, parent, status, userIds, groupIds, terminal, createTime, processCpuTimes, memoryInfo,
    memoryFullInfo, memoryMaps, threadCount, threads, contextSwitches, ioCounters, openFiles, descriptorCount,
    connections, nice, cpuAffinity, resourceLimit, isZombie]

def name : Question → String
  | bootTime => "boot-time"
  | cpuTimes => "cpu-times"
  | perCpuTimes => "per-cpu-times"
  | cpuCountLogical => "cpu-count-logical"
  | cpuCountCores => "cpu-count-cores"
  | cpuStats => "cpu-stats"
  | cpuFrequency => "cpu-freq"
  | loadAverage => "load-avg"
  | virtualMemory => "virtual-memory"
  | swapMemory => "swap-memory"
  | diskPartitions => "disk-partitions"
  | diskUsage => "disk-usage"
  | diskIoCounters => "disk-io-counters"
  | netIoCounters => "net-io-counters"
  | netAddresses => "net-if-addrs"
  | netStats => "net-if-stats"
  | netConnections => "net-connections"
  | users => "users"
  | pids => "pids"
  | pidExists => "pid-exists"
  | battery => "sensors-battery"
  | temperatures => "sensors-temperatures"
  | processName => "proc-name"
  | exe => "proc-exe"
  | commandLine => "proc-cmdline"
  | environment => "proc-environ"
  | workingDirectory => "proc-cwd"
  | parent => "proc-ppid"
  | status => "proc-status"
  | userIds => "proc-uids"
  | groupIds => "proc-gids"
  | terminal => "proc-terminal"
  | createTime => "proc-create-time"
  | processCpuTimes => "proc-cpu-times"
  | memoryInfo => "proc-memory-info"
  | memoryFullInfo => "proc-memory-full-info"
  | memoryMaps => "proc-memory-maps"
  | threadCount => "proc-num-threads"
  | threads => "proc-threads"
  | contextSwitches => "proc-num-ctx-switches"
  | ioCounters => "proc-io-counters"
  | openFiles => "proc-open-files"
  | descriptorCount => "proc-num-fds"
  | connections => "proc-connections"
  | nice => "proc-nice"
  | cpuAffinity => "proc-cpu-affinity"
  | resourceLimit => "proc-rlimit"
  | isZombie => "proc-is-zombie"

def named? (text : String) : Option Question := all.find? fun q => q.name == text

def title (q : Question) : String :=
  String.join ((q.name.toList.splitOn '-').map fun word => (String.ofList word).capitalize)

private def answer {α : Type} (document : α → Json) (query : Query α) : SampledQuery Json := do
  return document (← SampledQuery.ofQuery query)

def ask (p : Platform) (a : Subject) : Question → SampledQuery Json
  | bootTime => answer .real p.bootTime
  | cpuTimes => answer CpuTimes.toJson p.cpuTimes
  | perCpuTimes => answer (.listOf CpuTimes.toJson) p.perCpuTimes
  | cpuCountLogical => answer .nat p.cpuCountLogical
  | cpuCountCores => answer .nat p.cpuCountCores
  | cpuStats => answer CpuStats.toJson p.cpuStats
  | cpuFrequency => answer CpuFrequency.toJson p.cpuFrequency
  | loadAverage => do return (← p.loadAverage).toJson
  | virtualMemory => answer VirtualMemory.toJson p.virtualMemory
  | swapMemory => answer SwapMemory.toJson p.swapMemory
  | diskPartitions => answer (.listOf Partition.toJson) (p.diskPartitions a.all)
  | diskUsage => answer DiskUsage.toJson (p.diskUsage a.path)
  | diskIoCounters => answer (.table DiskIoCounters.toJson) p.diskIoCounters
  | netIoCounters => answer (.table NetIoCounters.toJson) p.netIoCounters
  | netAddresses => answer (.table (.listOf NicAddress.toJson)) p.netAddresses
  | netStats => answer (.table NicStats.toJson) p.netStats
  | netConnections => answer (.listOf Connection.toJson) (p.netConnections a.filter)
  | users => answer (.listOf User.toJson) p.users
  | pids => answer (.listOf .int) p.pids
  | pidExists => answer .bool (p.pidExists a.pid)
  | battery => answer (.option Battery.toJson) p.battery
  | temperatures => answer (.table (.listOf Temperature.toJson)) p.temperatures
  | processName => answer .text (p.name a.pid)
  | exe => answer .text (p.exe a.pid)
  | commandLine => answer (.listOf .text) (p.commandLine a.pid)
  | environment => answer (.table .text) (p.environment a.pid)
  | workingDirectory => answer .text (p.workingDirectory a.pid)
  | parent => answer .int (p.parent a.pid)
  | status => answer ProcessStatus.toJson (p.status a.pid)
  | userIds => answer ProcessIds.toJson (p.userIds a.pid)
  | groupIds => answer ProcessIds.toJson (p.groupIds a.pid)
  | terminal => answer (.option .text) (p.terminal a.pid)
  | createTime => answer .real (p.createTime a.pid)
  | processCpuTimes => answer ProcessCpuTimes.toJson (p.processCpuTimes a.pid)
  | memoryInfo => answer ProcessMemory.toJson (p.memoryInfo a.pid)
  | memoryFullInfo => answer MemoryFootprint.toJson (p.memoryFullInfo a.pid)
  | memoryMaps => answer (.listOf MemoryMap.toJson) (p.memoryMaps a.pid)
  | threadCount => answer .nat (p.threadCount a.pid)
  | threads => answer (.listOf ThreadTimes.toJson) (p.threads a.pid)
  | contextSwitches => answer ContextSwitches.toJson (p.contextSwitches a.pid)
  | ioCounters => answer IoCounters.toJson (p.ioCounters a.pid)
  | openFiles => answer (.listOf OpenFile.toJson) (p.openFiles a.pid)
  | descriptorCount => answer .nat (p.descriptorCount a.pid)
  | connections => answer (.listOf Connection.toJson) (p.connections a.pid a.filter)
  | nice => answer .int (p.nice a.pid)
  | cpuAffinity => answer (.listOf .nat) (p.cpuAffinity a.pid)
  | resourceLimit => answer ResourceLimit.toJson (p.resourceLimit a.pid a.resource)
  | isZombie => answer .bool (p.isZombie a.pid)

end Question
end HostProbe
