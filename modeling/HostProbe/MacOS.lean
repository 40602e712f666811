import HostProbe.BSD.Platform
import HostProbe.Footprint.Regions
import HostProbe.MacOS.Records

/-! macOS as a platform. -/
namespace HostProbe.MacOS

open BSD

structure Probe where
  context : Context := {}
  /-- Nanoseconds in a unit of the kernel's clock. -/
  timebase : Float := 1.0
  clockTicks : Float := 100.0
  pageSize : Nat := 4096
  deriving Inhabited

def Probe.new (context : Context) : Program Probe := do
  let timebase ← Ask.mach .timebase
  let clockTicks ← Posix.positiveSetting .clockTicks 100
  let pageSize ← Posix.positiveSetting .pageSize 4096
  let timebase :=
    match timebase with
    | .ok (numerator, denominator) =>
      if denominator ≠ 0 then Real.ofNat numerator / Real.ofNat denominator else 1.0
    | .error _ => 1.0
  return { context, timebase, clockTicks := Real.ofNat clockTicks, pageSize }

def Probe.seconds (p : Probe) (units : Nat) : Float := Real.ofNat units * p.timebase / 1000000000.0

def portFailure {α : Type} (call : String) (result : KernelResult) : Query α :=
  Query.report (.os call (.custom .other s!"kern_return_t {result}"))

/-! ### The system -/

def tickStates : Nat := 4

def timesOfTicks (p : Probe) (ticks : List Nat) : CpuTimes :=
  let seconds (state : Nat) : Float := Real.ofNat (ticks.getD state 0) / p.clockTicks
  { user := seconds 0, system := seconds 1, idle := seconds 2, nice := some (seconds 3) }

def cpuTimes (p : Probe) : Query CpuTimes := do
  match ← (Ask.mach (.load (tickStates * 4)) : Program (Except KernelResult Bytes)) with
  | .error result => portFailure "host_statistics(HOST_CPU_LOAD_INFO)" result
  | .ok b => return timesOfTicks p ((List.range tickStates).map fun i => Bytes.natAt b (i * 4) 4)

def perCpuTimes (p : Probe) : Query (List CpuTimes) := do
  match ← (Ask.mach .processors : Program (Except KernelResult (Nat × List Nat))) with
  | .error result => portFailure "host_processor_info(PROCESSOR_CPU_LOAD_INFO)" result
  | .ok (count, ticks) => return (splitTicks tickStates (timesOfTicks p) ticks).take count

def processors (name : String) : Query Nat := do return max (← Sysctl.intNamed name 4) 1 |>.toNat

def cpuFrequency : Query CpuFrequency := do
  let megahertz (hertz : Nat) : Float := Real.ofNat hertz / 1000000.0
  let current ← Sysctl.natNamed "hw.cpufrequency" 8
  let least ← (Sysctl.natNamed "hw.cpufrequency_min" 8).answer?
  let most ← (Sysctl.natNamed "hw.cpufrequency_max" 8).answer?
  return { current := megahertz current, min := megahertz (least.getD 0), max := megahertz (most.getD 0) }

def memoryCounts : Query MemoryCounts := do
  match ← (Ask.mach (.memory MemoryCounts.layout.size) : Program (Except KernelResult Bytes)) with
  | .error result => portFailure "host_statistics64(HOST_VM_INFO64)" result
  | .ok b => return MemoryCounts.layout.read b

/-- Pages that are read ahead count as free. -/
def memoryOf (total pageSize : Nat) (c : MemoryCounts) : Outcome VirtualMemory := do
  let active ← Word.mul c.active pageSize
  let inactive ← Word.mul c.inactive pageSize
  let wired ← Word.mul c.wired pageSize
  let free ← Word.mul (c.free - c.speculative) pageSize
  return {
    total, available := ← Word.add inactive free, used := ← Word.add active wired, free, active := some active
    inactive := some inactive, wired := some wired }

def virtualMemory (p : Probe) : Query VirtualMemory := do
  let total ← Sysctl.natNamed "hw.memsize" 8
  Query.lift (memoryOf total p.pageSize (← memoryCounts))

def swapMemory (p : Probe) : Query SwapMemory := do
  let usage ← Sysctl.named "vm.swapusage" 32
  let c ← memoryCounts
  return {
    total := Bytes.natAt usage 0 8, used := Bytes.natAt usage 16 8, free := Bytes.natAt usage 8 8
    swappedIn := ← Query.lift (Word.mul c.pageIns p.pageSize)
    swappedOut := ← Query.lift (Word.mul c.pageOuts p.pageSize) }

def netIoCounters (p : Probe) : Query (Table NetIoCounters) := do
  return interfaceTraffics
    (← Sysctl.readBytes p.context.buffers (Sysctl.mib [4, 17, 0, 0, 6, 0]) "sysctl(net.route.iflist2)")

def interfaces : InterfaceDialect where
  sockets := .bsd inet6
  notSupported := 102

def logins : Posix.LoginLayout := ⟨7, 256, 32, 256⟩

def pids (p : Probe) : Query (List Pid) := do
  let bytes ← Sysctl.readBytes p.context.buffers (Sysctl.mib [1, 14, 0, 0]) "sysctl(kern.proc.all)"
  Query.lift (ensureNonempty "sysctl(kern.proc.all)" ((ProcessEntry.layout.all bytes).map ProcessEntry.pid))

/-! ### Processes -/

def entry (pid : Pid) : Query ProcessEntry :=
  processRecord ProcessEntry.layout.size (fun b => .ok (ProcessEntry.layout.read b)) (Sysctl.mib [1, 14, 1, pid]) pid
    "sysctl(kern.proc.pid)"

/-- Existence shows in signals, the state of a zombie in the table of processes. -/
def live : Liveness Program where
  pidExists := Posix.pidExists
  isZombie pid := do
    match ← (entry pid).run with
    | .ok e => return e.status == .zombie
    | .error _ => return false

def processEntry (pid : Pid) : Query ProcessEntry := do
  Query.lift (checkPid pid)
  live.classifyFor pid (entry pid)

/-- A whole record; one that is cut short is of a process that may not be looked into. -/
def wholeRecord {α : Type} (layout : RecordLayout α) (pid : Pid) (call : String) : Except IoError Bytes → Query α
  | .error cause => live.fail pid call cause
  | .ok bytes =>
    match layout.first? bytes with
    | some record => return record
    | none => live.fail pid call (.bare .permissionDenied)

def facet {α : Type} (layout : RecordLayout α) (pid : Pid) (facet : ProcessFacet) (call : String) : Query α := do
  Query.lift (checkPid pid)
  wholeRecord layout pid call (← (Ask.mach (.process pid facet layout.size) : Program (Except IoError Bytes)))

def identity (pid : Pid) : Query Identity := facet Identity.layout pid .identity "proc_pidinfo(PROC_PIDTBSDINFO)"

def task (pid : Pid) : Query TaskInfo := facet TaskInfo.layout pid .task "proc_pidinfo(PROC_PIDTASKINFO)"

def workingDirectory (pid : Pid) : Query String :=
  facet directoryLayout pid .directories "proc_pidinfo(PROC_PIDVNODEPATHINFO)"

def nameRoom : Nat := 33
def pathRoom : Nat := 4096

/-- Processes that have ended and those of the kernel have no name but the beginning that the table keeps. -/
def name (pid : Pid) : Query String := do
  Query.lift (checkPid pid)
  match ← (Ask.mach (.name pid nameRoom) : Program (Except IoError Bytes)) with
  | .ok bytes => return Utf8.toString bytes
  | .error _ => return (← processEntry pid).command

def exe (pid : Pid) : Query String := do
  Query.lift (checkPid pid)
  match ← (Ask.mach (.path pid pathRoom) : Program (Except IoError Bytes)) with
  | .ok bytes => return Utf8.toString bytes
  | .error cause => live.fail pid "proc_pidpath" cause

def terminal (pid : Pid) : Query (Option String) := do
  let device := (← identity pid).terminal
  if device = 0xffffffff then return none
  BSD.terminalName device

/-- Why the arguments of a process cannot be read: an invalid argument is what the kernel says of a live process that
may not be looked into. -/
def argumentsFailure {α : Type} (pid : Pid) (cause : IoError) : Query α := do
  let call := "sysctl(kern.procargs2)"
  if cause = .number ErrorNumber.invalidArgument then
    let found : Bool ← (live.pidExists pid : Program Bool)
    if found then
      let ended : Bool ← (live.isZombie pid : Program Bool)
      if !ended then Query.report (.permissionDenied pid call)
  live.fail pid call cause

/-- Arguments and environment of a process; those of the kernel have neither. -/
def arguments (pid : Pid) : Query Arguments := do
  Query.lift (checkPid pid)
  let longest ← Sysctl.intValue (Sysctl.mib [1, 8]) "sysctl(kern.argmax)" 4
  match ← (Ask.sysctl (.read (Sysctl.mib [1, 49, pid]) longest.toNat) : Program (Except IoError Reply)) with
  | .error cause => argumentsFailure pid cause
  | .ok reply =>
    if reply.bytes.length ≤ 4 then return {}
    live.classifyFor pid
      (Query.lift (Outcome.ofOption (.parse s!"kern.procargs2.{pid}" "truncated argument block")
        (Arguments.ofBlock? reply.bytes)))

/-- A list about a process through buffers that begin with room for so many records. A full buffer may have been cut
silently. -/
def facetList {α : Type} (p : Probe) (layout : RecordLayout α) (pid : Pid) (facet : ProcessFacet) (initial : Nat)
    (call : String) : Query (List α) := do
  Query.lift (checkPid pid)
  Growth.untilDone p.context.buffers .standard layout.size call initial fun count => do
    -- The call takes the size of the buffer as a signed word of 32 bits.
    let size := Word.toInt 32 (count * layout.size)
    match ← (Ask.mach (.process pid facet (Word.ofInt 32 size)) : Program (Except IoError Bytes)) with
    | .error cause => live.fail pid call cause
    | .ok bytes => return if (bytes.length : Int) ≥ size then .tooSmall none else .done (layout.all bytes)

/-- Room that is left for descriptors or threads that appear while they are counted. -/
def spareRoom : Nat := 16

def descriptors (p : Probe) (pid : Pid) : Query (List (Int × DescriptorKind)) := do
  let call := "proc_pidinfo(PROC_PIDLISTFDS)"
  Query.lift (checkPid pid)
  match ← (Ask.mach (.processSize pid .descriptors) : Program (Except IoError Nat)) with
  | .error cause => live.fail pid call cause
  | .ok size =>
    facetList p descriptorLayout pid .descriptors (size / descriptorLayout.size + spareRoom) call

def descriptor? {α : Type} (layout : RecordLayout α) (pid : Pid) (fd : Int) (facet : DescriptorFacet) (call : String) :
    Query (Option α) := do
  let answer ← (Ask.mach (.descriptor pid fd facet layout.size) : Program (Except IoError Bytes))
  match answer with
  | .error (.number number) =>
    if number = ErrorNumber.badDescriptor then return none
    live.fail pid call (.number number)
  | answer => return some (← wholeRecord layout pid call answer)

def openFiles (p : Probe) (pid : Pid) : Query (List OpenFile) := do
  let files := (← descriptors p pid).filter fun d => d.2 == .file
  let found ← files.mapM fun (fd, _) => do
    let path ← descriptor? fileLayout pid fd .file "proc_pidfdinfo(PROC_PIDFDVNODEPATHINFO)"
    return (path.join.filter fun path => !path.isEmpty).map fun path => { path, fd : OpenFile }
  return found.filterMap id

def connections (p : Probe) (pid : Pid) (filter : ConnectionFilter) : Query (List Connection) := do
  let sockets := (← descriptors p pid).filter fun d => d.2 == .socket
  let found ← sockets.mapM fun (fd, _) => do
    let connection ← descriptor? ⟨socketSize, connectionOf? pid filter fd⟩ pid fd .socket
      "proc_pidfdinfo(PROC_PIDFDSOCKETINFO)"
    return connection.join
  return found.filterMap id

def thread? (pid : Pid) (id : Nat) : Query (Option ThreadTimes) := do
  match ← (facet (threadLayout id) pid (.thread id) "proc_pidinfo(PROC_PIDTHREADINFO)").attempt with
  | .ok times => return some times
  | .error (.processOs ..) => return none
  | .error error => Query.report error

def threads (p : Probe) (pid : Pid) : Query (List ThreadTimes) := do
  let count := (← task pid).threads
  let ids ← facetList p ⟨8, fun b => Bytes.natAt b 0 8⟩ pid .threads (count + spareRoom)
    "proc_pidinfo(PROC_PIDLISTTHREADS)"
  return (← ids.mapM (thread? pid)).filterMap id

/-- Only the bytes of disks are counted. -/
def ioCounters (pid : Pid) : Query IoCounters := do
  Query.lift (checkPid pid)
  match ← (Ask.mach (.usage pid usageLayout.size) : Program (Except IoError Bytes)) with
  | .ok bytes => return usageLayout.read bytes
  | .error cause => live.fail pid "proc_pid_rusage" cause

def memoryFullInfo (pid : Pid) : Query MemoryFootprint := do
  Query.lift (checkPid pid)
  let querier ← (Footprint.RegionQuerier.new (.pid pid) : Program Footprint.RegionQuerier)
  let found ← (querier.footprint.run : Program (FootprintOutcome Footprint))
  match found with
  | .ok footprint => Query.lift footprint.memory
  | .error (.report cause) => live.fail pid "task_for_pid" cause
  | .error .abort => throw .abort

def memoryInfo (pid : Pid) : Query ProcessMemory := do
  let t ← task pid
  return { rss := t.residentSize, vms := t.virtualSize, pageFaults := some t.faults }

def platform (p : Probe) : Platform where
  bootTime := Sysctl.bootTime 21 4
  cpuTimes := cpuTimes p
  perCpuTimes := perCpuTimes p
  cpuCountLogical := processors "hw.logicalcpu"
  cpuCountCores := processors "hw.physicalcpu"
  cpuFrequency
  loadAverage := .ofQuery loadAverage
  virtualMemory := virtualMemory p
  swapMemory := swapMemory p
  diskPartitions := partitions p.context.buffers .macos
  diskUsage := Posix.diskUsage
  netIoCounters := netIoCounters p
  netAddresses := Posix.netAddresses interfaces.sockets
  netStats := netStats interfaces
  netConnections filter := connectionsOfAll (pids p) fun pid => connections p pid filter
  users := Posix.users logins
  pids := pids p
  pidExists pid := Posix.pidExists pid
  name
  exe
  commandLine pid := do return (← arguments pid).command
  environment pid := do return Environment.ofEntries (← arguments pid).environment
  workingDirectory
  parent pid := do return (← processEntry pid).ppid
  status pid := do return (← processEntry pid).status
  userIds pid := do return (← identity pid).users
  groupIds pid := do return (← identity pid).groups
  terminal
  createTime pid := do
    let i ← identity pid
    return Real.ofNat i.startSeconds + Real.ofNat i.startMicroseconds / 1000000.0
  processCpuTimes pid := do
    let t ← task pid
    return { user := p.seconds t.userTime, system := p.seconds t.systemTime }
  memoryInfo
  memoryFullInfo
  threadCount pid := do return (← task pid).threads
  threads := threads p
  -- Only all switches together are counted.
  contextSwitches pid := do return { voluntary := (← task pid).switches, involuntary := 0 }
  ioCounters
  openFiles := openFiles p
  descriptorCount pid := do return (← descriptors p pid).length
  connections pid filter := do
    Query.lift (checkPid pid)
    connections p pid filter
  nice pid := Posix.getPriority live pid
  setNice pid value := Posix.setPriority live pid value
  sendSignal pid signal := Posix.sendSignal .bsd live pid signal
  isZombie pid := do return (← processEntry pid).status == .zombie

end HostProbe.MacOS
