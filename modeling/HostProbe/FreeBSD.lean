import HostProbe.Affinity
import HostProbe.BSD.Platform
import HostProbe.FreeBSD.Records

/-! FreeBSD as a platform. -/
namespace HostProbe.FreeBSD

open BSD

def processField (field pid : Int) : Mib := Sysctl.mib [1, 14, field, pid]

def info (p : Probe) (pid : Pid) : Query ProcessInfo :=
  processRecord processSize (readProcess p) (processField 1 pid) pid "sysctl(kern.proc.pid)"

def live (p : Probe) : Liveness Program := livenessBy (info p)

def node (p : Probe) (pid : Pid) (field : Int) (call : String) : Query Bytes :=
  p.processNode (live p) pid (processField field pid) call

def pids (p : Probe) : Query (List Pid) := do
  let bytes ← Sysctl.readBytes p.context.buffers (Sysctl.mib [1, 14, 8, 0]) "sysctl(kern.proc.proc)"
  return (Bytes.records processSize bytes).map pidOf

/-! ### The system -/

def timesOfTicks (p : Probe) (ticks : List Nat) : CpuTimes :=
  let seconds (state : Nat) : Float := Real.ofNat (ticks.getD state 0) / p.clockTicks
  { user := seconds 0, nice := some (seconds 1), system := seconds 2, interrupt := some (seconds 3), idle := seconds 4 }

/-- A table of ticks; negative ones count as zero. -/
def ticksNamed (p : Probe) (name : String) : Query (List Nat) := do
  let mib ← Sysctl.resolve name
  let bytes ← Sysctl.readBytes p.context.buffers mib name
  return (Bytes.records 8 bytes).map fun b => (Bytes.intAt b 0 8).toNat

/-- Times of the processors that are there; the table has room for every one the kernel was built for. -/
def perCpuTimes (p : Probe) : Query (List CpuTimes) := do
  let ticks ← ticksNamed p "kern.cp_times"
  return (splitTicks 5 (timesOfTicks p) ticks).take (← Sysctl.processors)

def cpuStats : Query CpuStats := do
  return {
    contextSwitches := ← Sysctl.natNamed "vm.stats.sys.v_swtch" 4
    interrupts := ← Sysctl.natNamed "vm.stats.sys.v_intr" 4
    softInterrupts := ← Sysctl.natNamed "vm.stats.sys.v_soft" 4
    systemCalls := ← Sysctl.natNamed "vm.stats.sys.v_syscall" 4 }

/-- Lowest and highest of the clock rates that are listed, each before a slash. -/
def frequencyBounds (levels : Text) : Float × Float :=
  let rates := (Text.words levels).filterMap fun level => Real.read? (level.takeWhile (· != '/'))
  let low := rates.foldl Real.min Real.infinity
  (if low.isFinite then low else 0.0, rates.foldl Real.max 0.0)

def cpuFrequency (p : Probe) : Query CpuFrequency := do
  let current ← Sysctl.intNamed "dev.cpu.0.freq" 4
  let levels : Query Bytes := do
    let mib ← Sysctl.resolve "dev.cpu.0.freq_levels"
    Sysctl.readBytes p.context.buffers mib "sysctl(dev.cpu.0.freq_levels)"
  let levels := Bytes.cString ((← levels.answer?).getD [])
  let (min, max) := frequencyBounds levels.toList
  return { current := Real.ofInt current, min, max }

/-- Memory by queues of pages; two of the queues are not there in every version. -/
def virtualMemory (p : Probe) : Query VirtualMemory := do
  let bytes (name : String) : Query Nat := do
    Query.lift (Word.mul (← Sysctl.natNamed s!"vm.stats.vm.{name}" 4) p.pageSize)
  let active ← bytes "v_active_count"
  let inactive ← bytes "v_inactive_count"
  let laundry ← Sysctl.orIfUnsupported (bytes "v_laundry_count") 0
  let wired ← bytes "v_wire_count"
  let cached ← Sysctl.orIfUnsupported (bytes "v_cache_count") 0
  let free ← bytes "v_free_count"
  let total ← Sysctl.natNamed "hw.physmem" 8
  let buffers ← Sysctl.intNamed "vfs.bufspace" 8
  let add (a b : Nat) : Query Nat := Query.lift (Word.add a b)
  return {
    total, available := ← add (← add (← add inactive laundry) cached) free, used := ← add active wired, free
    active := some active, inactive := some inactive, wired := some wired, cached := some cached
    buffers := some buffers.toNat }

def swapMemory (p : Probe) : Query SwapMemory := do
  match ← (Ask.swap .pages : Program (Except IoError (Option SwapPages))) with
  | .error cause => Query.report (.os "kvm_openfiles" cause)
  | .ok none => Query.report (.os "kvm_getswapinfo" (.custom .other "kvm_getswapinfo failed"))
  | .ok (some pages) =>
    let bytes (n : Nat) : Query Nat := Query.lift (Word.mul n p.pageSize)
    let swappedIn ← Sysctl.natNamed "vm.stats.vm.v_swappgsin" 4
    let swappedOut ← Sysctl.natNamed "vm.stats.vm.v_swappgsout" 4
    let total ← bytes pages.total
    let used ← bytes pages.used
    return {
      total, used, free := total - used, swappedIn := ← bytes swappedIn
      swappedOut := ← bytes swappedOut }

def diskIoCounters (p : Probe) : Query (Table DiskIoCounters) := do
  let mib ← Sysctl.resolve "kern.devstat.all"
  Query.lift (readDisks (← Sysctl.readBytes p.context.buffers mib "sysctl(kern.devstat.all)"))

def interfaces : InterfaceDialect where
  sockets := .bsd inet6
  countsOutputDrops := true

/-- Traffic of the interfaces; buses count as none. -/
def netIoCounters : Query (Table NetIoCounters) := do
  return (← BSD.netIoCounters interfaces).filter fun e => !("usbus".toList.isPrefixOf e.1.toList)

/-- Charge from percents and minutes; a battery that is being charged lasts forever, negative minutes are unknown. -/
def batteryOf (percent minutes : Int) (lineState : Option Int) : Battery :=
  let plugged := lineState.map (· == 1)
  { percent := Real.ofInt (max 0 (min percent 100))
    left := if plugged == some true then .unlimited else if minutes < 0 then .unknown
      else .seconds (minutes.toNat * 60)
    plugged }

def battery : Query (Option Battery) := do
  match ← (Sysctl.intNamed "hw.acpi.battery.life" 4).attempt with
  | .ok percent =>
    let minutes ← Sysctl.intNamed "hw.acpi.battery.time" 4
    let lineState ← (Sysctl.intNamed "hw.acpi.acline" 4).answer?
    return some (batteryOf percent minutes lineState)
  | .error error => if error.kind = .unsupported then return none else Query.report error

/-- Degrees Celsius of tenths of a kelvin. -/
def celsius (decikelvin : Int) : Outcome Float := do
  return Real.ofInt (← Word.checkSigned 32 (decikelvin - 2731)) / 10.0

/-- Readings of the processors from one on, up to the first that has none. -/
def readings : (remaining cpu : Nat) → Query (List Temperature)
  | 0, _ => return []
  | remaining + 1, cpu => do
    match ← (Sysctl.intNamed s!"dev.cpu.{cpu}.temperature" 4).attempt with
    | .error error => if error.kind = .unsupported then return [] else Query.report error
    | .ok current =>
      let limit ← (Sysctl.intNamed s!"dev.cpu.{cpu}.coretemp.tjmax" 4).answer?
      let high ← limit.mapM fun limit => Query.lift (celsius limit)
      let reading : Temperature := {
        label := s!"Core {cpu}", current := ← Query.lift (celsius current), high, critical := high }
      return reading :: (← readings remaining (cpu + 1))

def temperatures : Query Temperatures := do
  let found ← readings (← Sysctl.processors) 0
  if found.isEmpty then Query.report (.unsupported "sensors_temperatures")
  return [("coretemp", found)]

def logins : Posix.LoginLayout := ⟨4, 32, 16, 128⟩

/-! ### Processes -/

/-- Path of the executable; kernel processes and those whose executable was deleted have none. -/
def exe (p : Probe) (pid : Pid) : Query String := do
  match ← (node p pid 12 "sysctl(kern.proc.pathname)").attempt with
  | .ok bytes => return Bytes.cString bytes
  | .error error =>
    match error with
    | .processOs _ _ cause =>
      if cause.number? = some ErrorNumber.noEntry then return "" else Query.report error
    | _ => Query.report error

def commandLine (p : Probe) (pid : Pid) : Query (List String) := do
  return Bytes.splitNulStrings (← node p pid 7 "sysctl(kern.proc.args)")

def environment (p : Probe) (pid : Pid) : Query (List String) := do
  return Bytes.splitNulStrings (← node p pid 35 "sysctl(kern.proc.env)")

def fileTable (p : Probe) (pid : Pid) : Query Bytes := node p pid 33 "sysctl(kern.proc.filedesc)"

def workingDirectory (p : Probe) (pid : Pid) : Query String := do
  return (((FileRecord.split (← fileTable p pid)).find? FileRecord.isWorkingDirectory).map FileRecord.path).getD ""

def descriptorCount (p : Probe) (pid : Pid) : Query Nat := do
  return ((FileRecord.split (← fileTable p pid)).filter FileRecord.isDescriptor).length

def threads (p : Probe) (pid : Pid) : Query (List ThreadTimes) := do
  return (Bytes.records processSize (← node p pid 17 "sysctl(kern.proc.pid, threads)")).map readThread

def states (p : Probe) (filter : ConnectionFilter) : Query (List (Nat × Int)) := do
  if !filter.wants (.union .inet .inet6) .stream then return []
  let mib ← Sysctl.resolve "net.inet.tcp.pcblist"
  Query.lift (tcpStates (← Sysctl.readBytes p.context.buffers mib "sysctl(net.inet.tcp.pcblist)"))

def connections (p : Probe) (pid : Pid) (filter : ConnectionFilter) : Query (List Connection) := do
  let bytes ← fileTable p pid
  return connectionsIn bytes pid filter (← states p filter)

def netConnections (p : Probe) (filter : ConnectionFilter) : Query (List Connection) := do
  let states ← states p filter
  connectionsOfAll (pids p) fun pid => do return connectionsIn (← fileTable p pid) pid filter states

/-- Words of a set of processors, and the level and kind by which the set of a process is selected. -/
def setWords : Nat := 16
def setLevel : Int := 3
def setOwner : Int := 2

def cpuAffinity (p : Probe) (pid : Pid) : Query (List Nat) := do
  Query.lift (checkPid pid)
  match ← (Ask.posix (.getCpuSet setLevel setOwner pid (setWords * 8)) : Program (Except IoError (List Nat))) with
  | .ok words => return Affinity.cpusOfMask words
  | .error cause => (live p).fail pid "cpuset_getaffinity" cause

def setCpuAffinity (p : Probe) (pid : Pid) (cpus : List Nat) : Query Unit := do
  Query.lift (checkPid pid)
  match cpus.find? fun cpu => cpu ≥ setWords * 64 with
  | some cpu => Query.report (.os "cpuset_setaffinity" (.custom .invalidInput s!"CPU {cpu} out of range"))
  | none =>
    let words := (Affinity.maskOfCpus cpus).take setWords
    match ← (Ask.posix (.setCpuSet setLevel setOwner pid words) : Program (Except IoError Unit)) with
    | .ok () => return ()
    | .error cause => (live p).fail pid "cpuset_setaffinity" cause

/-- Number of a resource; some are not bounded here. -/
def resourceNumber? : Resource → Option Int
  | .cpuTime => some 0
  | .fileSize => some 1
  | .dataSize => some 2
  | .stackSize => some 3
  | .coreFileSize => some 4
  | .residentSet => some 5
  | .lockedMemory => some 6
  | .processes => some 7
  | .openFiles => some 8
  | .addressSpace => some 10
  | _ => none

/-- A bound, which is infinite when it is the largest signed number. -/
def finite (bound : Int) : Option Nat := if bound = 0x7fffffffffffffff then none else some (Word.ofInt 64 bound)

def resourceLimit (p : Probe) (pid : Pid) (resource : Resource) : Query ResourceLimit := do
  Query.lift (checkPid pid)
  match resourceNumber? resource with
  | none => Query.report (.unsupported s!"proc_rlimit({resource.title})")
  | some number =>
    let mib := (processField 37 pid).extend [number]
    let b ← (live p).classifyFor pid (Sysctl.value mib "sysctl(kern.proc.rlimit)" 16)
    return { soft := finite (Bytes.intAt b 0 8), hard := finite (Bytes.intAt b 8 8) }

def dialect (p : Probe) : Dialect where
  probe := p
  interfaces
  mounts := .freebsd
  bootTime := Sysctl.bootTime 21 8
  cpuTimes := do return timesOfTicks p (← ticksNamed p "kern.cp_time")
  perCpuTimes := perCpuTimes p
  cpuCountCores := do return max (← Sysctl.intNamed "kern.smp.cores" 4) 1 |>.toNat
  cpuStats
  cpuFrequency := cpuFrequency p
  virtualMemory := virtualMemory p
  swapMemory := swapMemory p
  diskIoCounters := diskIoCounters p
  netIoCounters
  netConnections := netConnections p
  users := Posix.users logins
  pids := pids p
  info := info p
  exe := exe p
  commandLine := commandLine p
  environment := environment p
  workingDirectory := workingDirectory p
  threads := threads p
  openFiles pid := do return openFilesIn (← fileTable p pid)
  descriptorCount := descriptorCount p
  connections := connections p

def platform (p : Probe) : Platform :=
  { BSD.platform (dialect p) with
    battery := battery
    temperatures := temperatures
    cpuAffinity := cpuAffinity p
    setCpuAffinity := setCpuAffinity p
    resourceLimit := resourceLimit p }

end HostProbe.FreeBSD
