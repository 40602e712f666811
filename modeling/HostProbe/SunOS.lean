import HostProbe.Context
import HostProbe.Platform
import HostProbe.Posix.Interfaces
import HostProbe.Posix.System
import HostProbe.Posix.Process
import HostProbe.Procfs.Blocks
import HostProbe.Procfs.Disks
import HostProbe.Procfs.Processes
import HostProbe.SunOS.Kstat
import HostProbe.SunOS.Records

/-! SunOS as a platform: the system is known by kernel statistics, processes by a process file system of binary
records. -/
namespace HostProbe.SunOS

structure Probe where
  procfs : Procfs
  clockTicks : Float := 100.0
  pageSize : Nat := 4096
  deriving Inhabited

namespace Probe

def new (context : Context) : Program Probe := do
  let ticks ← Posix.positiveSetting .clockTicks 100
  let pageSize ← Posix.positiveSetting .pageSize 4096
  return { procfs := ⟨context.procfsRoot⟩, clockTicks := Real.ofNat ticks, pageSize }

def live (p : Probe) : Liveness Program :=
  ⟨Posix.pidExists, p.procfs.recordShows ProcessInfo.layout "psinfo" ProcessInfo.isZombie⟩

def info (p : Probe) (pid : Pid) : Query ProcessInfo := p.procfs.processRecord p.live ProcessInfo.layout pid "psinfo"

def usage (p : Probe) (pid : Pid) : Query Usage := p.procfs.processRecord p.live Usage.layout pid "usage"

def credentials (p : Probe) (pid : Pid) : Query Credentials :=
  p.procfs.processRecord p.live Credentials.layout pid "cred"

/-! ### The system -/

def processors : Query (List (Table Nat)) := do
  let entries ← Kstat.find "cpu" (some "sys")
  let found ← entries.mapM fun e => do return (e.instanceNumber, (← Kstat.namedNumbers e).table)
  let sorted := found.mergeSort fun a b => a.1 ≤ b.1
  Query.lift (ensureNonempty "kstat(cpu::sys)" (sorted.map (·.2)))

def cpuTimesOf (p : Probe) (values : Table Nat) : CpuTimes :=
  let seconds (name : String) : Float := Real.ofNat ((Table.get? values name).getD 0) / p.clockTicks
  { user := seconds "cpu_ticks_user", system := seconds "cpu_ticks_kernel", idle := seconds "cpu_ticks_idle"
    iowait := some (seconds "cpu_ticks_wait") }

def perCpuTimes (p : Probe) : Query (List CpuTimes) := do return (← processors).map p.cpuTimesOf

/-- Times of all processors together; one that tells no time of waiting adds none. -/
def sumCpuTimes (times : List CpuTimes) : CpuTimes :=
  times.foldl (fun sum t => {
      sum with
      user := sum.user + t.user, system := sum.system + t.system, idle := sum.idle + t.idle
      iowait := some (sum.iowait.getD 0.0 + t.iowait.getD 0.0) })
    { iowait := some 0.0 }

def unixNumbers (name : String) : Query (Table Nat) := do
  match (← Kstat.find "unix" (some name)) with
  | [] => Query.report (.unsupported s!"kstat(unix::{name})")
  | entry :: _ => return (← Kstat.namedNumbers entry).table

def bootTime : Query Float := do
  match Table.get? (← unixNumbers "system_misc") "boot_time" with
  | some seconds => return Real.ofNat seconds
  | none => Query.report (.unsupported "kstat(unix::system_misc:boot_time)")

def cpuCountLogical : Query Nat := do
  let online ← (Ask.posix (.setting .processors) : Program Int)
  if online > 0 then return online.toNat
  return (← processors).length

/-- Number of pairs of a chip and a core that processors name; one that names no core is not counted. -/
def cpuCountCores : Query Nat := do
  let entries ← Kstat.find "cpu_info" none
  let cores ← entries.mapM fun e => do
    let values ← Kstat.namedNumbers e
    return (values.first? "core_id").map fun core => ((values.first? "chip_id").getD 0, core)
  let distinct := (cores.filterMap id).eraseDups
  if distinct.isEmpty then Query.report (.unsupported "cpu_count_cores")
  return distinct.length

def addProcessor (stats : CpuStats) (values : Table Nat) : Query CpuStats := do
  let value (name : String) : Nat := (Table.get? values name).getD 0
  return {
    stats with
    contextSwitches := ← Query.lift (Word.add stats.contextSwitches (value "pswitch"))
    interrupts := ← Query.lift (Word.add stats.interrupts (value "intr"))
    systemCalls := ← Query.lift (Word.add stats.systemCalls (value "syscall")) }

def cpuStats : Query CpuStats := do (← processors).foldlM addProcessor {}

def cpuFrequency : Query CpuFrequency := do
  let rates ← (← Kstat.find "cpu_info" none).mapM fun e => do
    let values ← Kstat.namedNumbers e
    let rated := Real.ofNat ((values.first? "clock_MHz").getD 0)
    return (((values.first? "current_clock_Hz").map fun hz => Real.ofNat hz / 1000000.0).getD rated, rated)
  if rates.isEmpty then Query.report (.unsupported "cpu_freq")
  let current := rates.foldl (fun sum r => sum + r.1) 0.0
  return {
    current := current / Real.ofNat rates.length, min := 0.0, max := rates.foldl (fun m r => Real.max m r.2) 0.0 }

/-- Load averages are kept as fixed-point numbers. -/
def loadAverage : Query LoadAverage := do
  let values ← unixNumbers "system_misc"
  let load (name : String) : Float := Real.ofNat ((Table.get? values name).getD 0) / 256.0
  return { one := load "avenrun_1min", five := load "avenrun_5min", fifteen := load "avenrun_15min" }

def virtualMemory (p : Probe) : Query VirtualMemory := do
  let values ← unixNumbers "system_pages"
  let bytes (name : String) : Query Nat := Query.lift (Word.mul ((Table.get? values name).getD 0) p.pageSize)
  let total ← bytes "physmem"
  let free ← bytes "freemem"
  return { total, available := free, used := total - free, free }

def pseudoFilesystems : List String :=
  ["autofs", "bootfs", "ctfs", "dev", "devfs", "fd", "lofs", "mntfs", "objfs", "proc", "sharefs"]

/-- Mount options with the access in front, which is to write unless they say otherwise. -/
def normalizeOptions (options : Text) : Text :=
  let parts := options.splitOn ','
  let others := parts.filter fun o => !o.isEmpty && o != "rw".toList && o != "ro".toList
  Text.join [','] ((if parts.contains "ro".toList then "ro".toList else "rw".toList) :: others)

def diskPartitions (all : Bool) : Query (List Partition) := do
  let mounts := Procfs.parseMounts (← Procfs.readText "/etc/mnttab") none
  return (mounts.filter fun m => all || !pseudoFilesystems.contains m.fstype).map fun m =>
    { m with opts := String.ofList (normalizeOptions m.opts.toList) }

def milliseconds (nanoseconds : Int) : Nat := nanoseconds.toNat / 1000000

/-- Counters of the disks; an entry that holds too little is passed over. -/
def diskIoCounters : Query (Table DiskIoCounters) := do
  let entries := (← Kstat.chain).filter fun e => e.type == Kstat.ioType && e.className == "disk"
  let found ← entries.mapM fun e => do
    return (DeviceCounters.layout.first? (← Kstat.read e)).map fun c =>
      (e.name, ({
        readCount := c.reads, writeCount := c.writes, readBytes := c.bytesRead, writeBytes := c.bytesWritten
        readTime := milliseconds c.runTime, writeTime := milliseconds c.waitTime } : DiskIoCounters))
  return Table.ofList (found.filterMap id)

def isLink (entry : KstatHeader) : Bool := entry.type == Kstat.namedType && entry.className == "net"

/-- Adds the traffic of an entry, unless it is of no link or no interface, or the interface has its traffic. -/
def countLink (interfaces : Table Nat) (counters : Table NetIoCounters) (e : KstatHeader) :
    Query (Table NetIoCounters) := do
  if !isLink e || !Table.contains interfaces e.name || Table.contains counters e.name then return counters
  let values ← Kstat.namedNumbers e
  let value (name : String) : Nat := (values.first? name).getD 0
  return Table.insert e.name {
    bytesSent := value "obytes64", bytesReceived := value "rbytes64", packetsSent := value "opackets64"
    packetsReceived := value "ipackets64", errorsIn := value "ierrors", errorsOut := value "oerrors"
    dropsIn := value "norcvbuf", dropsOut := value "noxmtbuf" } counters

/-- Traffic of the interfaces that have a link's entry; its first one counts. -/
def netIoCounters : Query (Table NetIoCounters) := do
  let interfaces ← Posix.interfaceFlags
  (← Kstat.chain).foldlM (countLink interfaces) []

def linkDuplex : Option Nat → Duplex
  | some 1 => .half
  | some 2 => .full
  | _ => .unknown

/-- State of an interface; speed and duplex are known if its link's entry can be read. -/
def interfaceStats (chain : List KstatHeader) (interface : String × Nat) : Query (String × NicStats) := do
  let (name, flags) := interface
  let values ← match chain.find? fun e => isLink e && e.name == name with
    | none => pure none
    | some e => (Kstat.namedNumbers e).answer?
  let values : NamedNumbers := values.getD []
  return (name, {
    isUp := Posix.isUp flags, flags := Posix.flagNames 0x1000 flags, mtu := 0
    speed := (values.first? "ifspeed").getD 0 / 1000000, duplex := linkDuplex (values.first? "link_duplex") })

def netStats : Query (Table NicStats) := do
  let interfaces ← Posix.interfaceFlags
  let chain ← Kstat.chain
  interfaces.mapM (interfaceStats chain)

/-! ### Processes -/

def fullArguments (p : Probe) (pid : Pid) (info : ProcessInfo) : Query (List String) := do
  let space ← p.procfs.addressSpace p.live pid info.pointerSize
  p.live.classifyFor pid (space.argv info.argumentVector info.argumentCount.toNat)

def commandLine (p : Probe) (pid : Pid) : Query (List String) := do
  let info ← p.info pid
  Procfs.argumentsOr (p.fullArguments pid info) info.shortArguments

def environment (p : Probe) (pid : Pid) : Query (Table String) := do
  let info ← p.info pid
  let space ← p.procfs.addressSpace p.live pid info.pointerSize
  return Environment.ofEntries (← p.live.classifyFor pid (space.envp info.environmentVector))

def terminal (p : Probe) (pid : Pid) : Query (Option String) := do
  let info ← p.info pid
  if info.terminal = ProcessInfo.noTerminal then return none
  Posix.terminalName info.terminal

def memoryInfo (p : Probe) (pid : Pid) : Query ProcessMemory := do
  let info ← p.info pid
  let usage ← p.usage pid
  return {
    rss := ← Query.lift (Word.mul info.residentKiB 1024), vms := ← Query.lift (Word.mul info.sizeKiB 1024)
    pageFaults := some (← Query.lift (Word.add usage.minorFaults usage.majorFaults)) }

/-- Times of every thread that has not exited since the directory was listed. -/
def threads (p : Probe) (pid : Pid) : Query (List ThreadTimes) := do
  let names ← p.procfs.processEntries p.live pid "lwp"
  let found ← names.mapM fun name => do
    let path := Path.join (Path.join (p.procfs.pidPath pid "lwp") name) "lwpusage"
    match ← (Ask.file (.read path) : Program (Except IoError Bytes)) with
    | .error _ => return none
    | .ok bytes =>
      let usage ← Query.lift (Usage.layout.decode path bytes)
      return some { id := usage.thread.toNat, user := usage.user, system := usage.system : ThreadTimes }
  return (found.filterMap id).mergeSort fun a b => a.id ≤ b.id

/-- The regular file behind a descriptor; a file whose name the kernel forgot has no path. -/
def openFile (p : Probe) (pid : Pid) (name : String) : Query (Option OpenFile) := do
  match Integer.int32? name.toList with
  | none => return none
  | some fd =>
    match ← (Ask.file (.info (Path.join (p.procfs.pidPath pid "fd") name)) : Program (Except IoError FileInfo)) with
    | .error _ => return none
    | .ok info =>
      if info.kind ≠ .regular then return none
      return (← (p.procfs.readPidLink pid s!"path/{fd}").answer?).map fun target =>
        { path := Utf8.toString target, fd }

def openFiles (p : Probe) (pid : Pid) : Query (List OpenFile) := do
  let names ← p.procfs.processEntries p.live pid "fd"
  let files ← names.mapM (p.openFile pid)
  return (files.filterMap id).mergeSort fun a b => a.fd ≤ b.fd

end Probe

def platform (p : Probe) : Platform where
  bootTime := Probe.bootTime
  cpuTimes := do return Probe.sumCpuTimes (← p.perCpuTimes)
  perCpuTimes := p.perCpuTimes
  cpuCountLogical := Probe.cpuCountLogical
  cpuCountCores := Probe.cpuCountCores
  cpuStats := Probe.cpuStats
  cpuFrequency := Probe.cpuFrequency
  loadAverage := .ofQuery Probe.loadAverage
  virtualMemory := p.virtualMemory
  diskPartitions := Probe.diskPartitions
  diskUsage := Posix.diskUsage
  diskIoCounters := Probe.diskIoCounters
  netIoCounters := Probe.netIoCounters
  netAddresses := Posix.netAddresses .linux
  netStats := Probe.netStats
  users := Posix.users .linux
  pids := p.procfs.pids
  pidExists pid := Posix.pidExists pid
  name pid := do return (← p.info pid).name
  exe pid := p.procfs.processLink p.live pid "path/a.out"
  commandLine := p.commandLine
  environment := p.environment
  workingDirectory pid := p.procfs.processLink p.live pid "path/cwd"
  parent pid := do return (← p.info pid).ppid
  status pid := do return statusOfState (← p.info pid).state
  userIds pid := do return (← p.credentials pid).user
  groupIds pid := do return (← p.credentials pid).group
  terminal := p.terminal
  createTime pid := do return (← p.info pid).startTime
  processCpuTimes pid := do
    let usage ← p.usage pid
    return { user := usage.user, system := usage.system }
  memoryInfo := p.memoryInfo
  threadCount pid := do return (← p.info pid).threads.toNat
  threads := p.threads
  contextSwitches pid := do
    let usage ← p.usage pid
    return { voluntary := usage.voluntarySwitches, involuntary := usage.involuntarySwitches }
  ioCounters pid := do
    let usage ← p.usage pid
    return {
      readCount := usage.blocksRead, writeCount := usage.blocksWritten, readBytes := usage.characters
      writeBytes := 0 }
  openFiles := p.openFiles
  descriptorCount pid := do return (← p.procfs.processEntries p.live pid "fd").length
  nice pid := Posix.getPriority p.live pid
  setNice pid value := Posix.setPriority p.live pid value
  sendSignal pid signal := Posix.sendSignal .linux p.live pid signal
  isZombie pid := do return (← p.info pid).isZombie

end HostProbe.SunOS
