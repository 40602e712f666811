import HostProbe.Program
import HostProbe.Record.System
import HostProbe.Record.Network
import HostProbe.Record.Process
import HostProbe.Record.Session

/-! What can be asked about a system. A system offers the queries that it defines; the others are unsupported. -/
namespace HostProbe

/-- Samples taken since a probe first asked for load averages, on systems that keep none: nothing before sampling
started, the averages afterwards. -/
structure Sampling where
  started : Bool := false
  averages : LoadAverage := {}
  deriving Inhabited

/-- Queries that may start sampling or move its averages. Failing keeps what was done to them. -/
abbrev SampledQuery (α : Type) := ExceptT Fault (StateT Sampling Program) α

def notOffered {α : Type} (name : String) : Query α := Query.report (.unsupported name)

namespace SampledQuery

def ofQuery {α : Type} (query : Query α) : SampledQuery α := ExceptT.mk (StateT.lift query.run)

end SampledQuery

structure Platform where
  bootTime : Query Float := notOffered "boot_time"
  cpuTimes : Query CpuTimes := notOffered "cpu_times"
  perCpuTimes : Query (List CpuTimes) := notOffered "per_cpu_times"
  cpuCountLogical : Query Nat := notOffered "cpu_count_logical"
  cpuCountCores : Query Nat := notOffered "cpu_count_cores"
  cpuStats : Query CpuStats := notOffered "cpu_stats"
  cpuFrequency : Query CpuFrequency := notOffered "cpu_freq"
  loadAverage : SampledQuery LoadAverage := .ofQuery (notOffered "load_avg")
  virtualMemory : Query VirtualMemory := notOffered "virtual_memory"
  swapMemory : Query SwapMemory := notOffered "swap_memory"
  diskPartitions : (all : Bool) → Query (List Partition) := fun _ => notOffered "disk_partitions"
  diskUsage : (path : String) → Query DiskUsage := fun _ => notOffered "disk_usage"
  diskIoCounters : Query (Table DiskIoCounters) := notOffered "disk_io_counters"
  netIoCounters : Query (Table NetIoCounters) := notOffered "net_io_counters"
  netAddresses : Query (Table (List NicAddress)) := notOffered "net_if_addrs"
  netStats : Query (Table NicStats) := notOffered "net_if_stats"
  netConnections : ConnectionFilter → Query (List Connection) := fun _ => notOffered "net_connections"
  users : Query (List User) := notOffered "users"
  pids : Query (List Pid) := notOffered "pids"
  pidExists : Pid → Query Bool := fun _ => notOffered "pid_exists"
  battery : Query (Option Battery) := notOffered "sensors_battery"
  temperatures : Query Temperatures := notOffered "sensors_temperatures"
  name : Pid → Query String := fun _ => notOffered "proc_name"
  exe : Pid → Query String := fun _ => notOffered "proc_exe"
  commandLine : Pid → Query (List String) := fun _ => notOffered "proc_cmdline"
  environment : Pid → Query (Table String) := fun _ => notOffered "proc_environ"
  workingDirectory : Pid → Query String := fun _ => notOffered "proc_cwd"
  parent : Pid → Query Pid := fun _ => notOffered "proc_ppid"
  status : Pid → Query ProcessStatus := fun _ => notOffered "proc_status"
  userIds : Pid → Query ProcessIds := fun _ => notOffered "proc_uids"
  groupIds : Pid → Query ProcessIds := fun _ => notOffered "proc_gids"
  terminal : Pid → Query (Option String) := fun _ => notOffered "proc_terminal"
  createTime : Pid → Query Float := fun _ => notOffered "proc_create_time"
  processCpuTimes : Pid → Query ProcessCpuTimes := fun _ => notOffered "proc_cpu_times"
  memoryInfo : Pid → Query ProcessMemory := fun _ => notOffered "proc_memory_info"
  memoryFullInfo : Pid → Query MemoryFootprint := fun _ => notOffered "proc_memory_full_info"
  memoryMaps : Pid → Query (List MemoryMap) := fun _ => notOffered "proc_memory_maps"
  threadCount : Pid → Query Nat := fun _ => notOffered "proc_num_threads"
  threads : Pid → Query (List ThreadTimes) := fun _ => notOffered "proc_threads"
  contextSwitches : Pid → Query ContextSwitches := fun _ => notOffered "proc_num_ctx_switches"
  ioCounters : Pid → Query IoCounters := fun _ => notOffered "proc_io_counters"
  openFiles : Pid → Query (List OpenFile) := fun _ => notOffered "proc_open_files"
  descriptorCount : Pid → Query Nat := fun _ => notOffered "proc_num_fds"
  connections : Pid → ConnectionFilter → Query (List Connection) := fun _ _ => notOffered "proc_connections"
  nice : Pid → Query Int := fun _ => notOffered "proc_nice"
  setNice : Pid → Int → Query Unit := fun _ _ => notOffered "proc_set_nice"
  cpuAffinity : Pid → Query (List Nat) := fun _ => notOffered "proc_cpu_affinity"
  setCpuAffinity : Pid → List Nat → Query Unit := fun _ _ => notOffered "proc_set_cpu_affinity"
  resourceLimit : Pid → Resource → Query ResourceLimit := fun _ _ => notOffered "proc_rlimit"
  sendSignal : Pid → Signal → Query Unit := fun _ _ => notOffered "proc_send_signal"
  /-- Stopping is a signal where the system has no other way. -/
  suspend : Pid → Query Unit := fun pid => sendSignal pid .stop
  resume : Pid → Query Unit := fun pid => sendSignal pid .resume
  isZombie : Pid → Query Bool := fun pid => do return (← status pid) == .zombie

namespace Platform

def unsupported : Platform := {}

def memoryPercent (p : Platform) : Query Float := do return (← p.virtualMemory).percent

end Platform
end HostProbe
