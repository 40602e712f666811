import HostProbe.Procfs.Blocks
import HostProbe.Record.Session
import HostProbe.Windows.Network
import HostProbe.Windows.Processes
import HostProbe.Windows.Sampler

/-! Windows as a platform. -/
namespace HostProbe.Windows

/-- Signals that have a counterpart: ending, stopping and going on. -/
def sendSignal (context : Context) (pid : Pid) : Signal → Query Unit
  | .terminate | .kill => terminate context pid
  | .stop => suspend context pid
  | .resume => resume context pid
  | signal => Query.report (.unsupported s!"sending {signal.name}")

def platform (context : Context) : Platform where
  bootTime
  cpuTimes
  perCpuTimes := perCpuTimes context
  cpuCountLogical := processorCount
  cpuCountCores := coreCount context
  cpuStats := cpuStats context
  cpuFrequency
  loadAverage := Sampler.loadAverage context.testing
  virtualMemory := do return memoryOf (← memoryStatus)
  swapMemory := do return swapOf (← memoryStatus)
  diskPartitions := partitions
  diskUsage
  diskIoCounters
  netIoCounters := netIoCounters context
  netAddresses := netAddresses context
  netStats := netStats context
  netConnections := connections context none
  users
  pids := do return (← processes context).map ProcessEntry.pid
  pidExists pid := pidExists context pid
  battery
  name pid := do return (← entry context pid).name
  exe := exe context
  commandLine := commandLine context
  environment pid := do return Environment.ofEntries (← environment context pid)
  workingDirectory := workingDirectory context
  parent pid := do return (← entry context pid).parent
  status pid := do return (← entry context pid).status
  createTime := createTime context
  processCpuTimes := processCpuTimes context
  memoryInfo := memoryInfo context
  memoryFullInfo := memoryFullInfo context
  memoryMaps := memoryMaps context
  threadCount pid := do return (← entry context pid).threadCount
  threads pid := do return (← entry context pid).threads.map fun t => { id := t.id, user := t.user, system := t.system }
  contextSwitches pid := do
    return { voluntary := (← entry context pid).threads.foldl (fun sum t => sum + t.contextSwitches) 0 }
  ioCounters := ioCounters context
  openFiles := openFiles context
  descriptorCount := handleCount context
  connections pid filter := do
    let _ ← entry context pid
    connections context (some pid) filter
  nice := priorityClass context
  setNice := setPriorityClass context
  cpuAffinity := cpuAffinity context
  setCpuAffinity := setCpuAffinity context
  sendSignal := sendSignal context
  suspend := suspend context
  resume := resume context
  isZombie pid := do
    let _ ← entry context pid
    return false

end HostProbe.Windows
