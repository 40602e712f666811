import HostProbe.Record.Session
import HostProbe.Windows.Native

/-! Processors, memory, power and sessions of a Windows system. -/
namespace HostProbe.Windows

/-- Seconds since 1970 on the wall clock, which must not be set before that. -/
def now : Query Float := do
  let (seconds, nanoseconds) ← (Ask.posix .now : Program (Int × Nat))
  if seconds < 0 then
    Query.report (.os "SystemTime::now" (.custom .other "second time provided was later than self"))
  return Real.ofInt seconds + Real.ofNat nanoseconds / 1000000000.0

def bootTime : Query Float := do
  let now ← now
  return now - Real.ofNat (← (Ask.windows .uptime : Program Nat)) / 1000.0

/-! ### Processors -/

def cpuTimes : Query CpuTimes := do
  let (idle, kernel, user) ← answered "GetSystemTimes" (← (Ask.windows .systemTimes : Program (Except IoError _)))
  Query.lift (cpuTimesOf idle kernel user)

def processorCount : Query Nat := do
  answered "GetActiveProcessorCount" (← (Ask.windows .processorCount : Program (Except IoError Nat)))

def perProcessor {α : Type} (context : Context) (cls : Nat) (name : String) (layout : RecordLayout α) :
    Query (List α) := do
  let filled ← systemInformation context cls name ((← processorCount) * layout.size)
  return layout.all filled.bytes

def processorTicks (context : Context) : Query (List ProcessorTicks) :=
  perProcessor context 8 "SystemProcessorPerformanceInformation" ProcessorTicks.layout

def perCpuTimes (context : Context) : Query (List CpuTimes) := do
  (← processorTicks context).mapM fun t => Query.lift t.times

def coreCount (context : Context) : Query Nat := do
  let call := "GetLogicalProcessorInformationEx"
  let records ← roomUntilFits context call 4096 (fun size => Ask.windows (.processorCores size))
    fun cause => Query.report (.os call cause)
  match countRecords records 0 with
  | 0 => Query.report (.unsupported "counting physical cores without processor records")
  | cores => return cores

def performanceSize : Nat := 1024

def cpuStats (context : Context) : Query CpuStats := do
  let switches ← perProcessor context 23 "SystemInterruptInformation" SwitchCounts.layout
  let ticks ← processorTicks context
  let performance ← systemInformation context 2 "SystemPerformanceInformation" performanceSize
  return {
    contextSwitches := switches.foldl (fun sum s => sum + s.contextSwitches) 0
    interrupts := ticks.foldl (fun sum t => sum + t.interrupts) 0
    softInterrupts := switches.foldl (fun sum s => sum + s.deferredCalls) 0
    systemCalls := Bytes.natAt performance.bytes systemCallsOffset 4 }

def clockSize : Nat := 24

def cpuFrequency : Query CpuFrequency := do
  let room := (← processorCount) * clockSize
  let reply ← (Ask.windows (.processorPower room) : Program NativeReply)
  if NtStatus.isFailure reply.status then
    nativeFailure "CallNtPowerInformation(ProcessorInformation)" reply.status
  return clockOf reply.bytes

/-! ### Memory -/

def memoryStatus : Query MemoryStatus := do
  answered "GlobalMemoryStatusEx" (← (Ask.windows .memoryStatus : Program (Except IoError MemoryStatus)))

def memoryOf (s : MemoryStatus) : VirtualMemory where
  total := s.totalPhysical
  available := s.availablePhysical
  used := s.totalPhysical - s.availablePhysical
  free := s.availablePhysical

/-- What was promised beyond the physical memory is swapped, as far as the physical memory is not in use. -/
def swapOf (s : MemoryStatus) : SwapMemory :=
  let total := s.totalCommit - s.totalPhysical
  let used := min (s.totalCommit - s.availableCommit - (s.totalPhysical - s.availablePhysical)) total
  { total, used, free := total - used, swappedIn := 0, swappedOut := 0 }

/-! ### Power -/

/-- No battery, or none that is known of. -/
def lacksBattery (flags : Nat) : Bool := flags &&& 128 != 0 || flags == 255

def unknownTime : Nat := 0xffffffff

/-- A battery that is being charged lasts without limit. -/
def batteryOf (s : PowerStatus) : Option Battery :=
  if lacksBattery s.flags then none
  else
    let plugged := match s.line with
      | 0 => some false
      | 1 => some true
      | _ => none
    some {
      percent := Real.ofNat (min s.percent 100)
      left :=
        if plugged = some true then .unlimited else if s.left = unknownTime then .unknown else .seconds s.left
      plugged }

def battery : Query (Option Battery) := do
  return batteryOf (← answered "GetSystemPowerStatus"
    (← (Ask.windows .powerStatus : Program (Except IoError PowerStatus))))

/-! ### Sessions -/

def inet : Nat := 2
def inet6 : Nat := 23

def clientHost (family : Nat) (address : Bytes) : Option String :=
  if family = inet then (IpAddress.v4? ((address.drop 2).take 4)).map IpAddress.text
  else if family = inet6 then (IpAddress.v6? ((address.drop 2).take 16)).map IpAddress.text
  else none

def sessionUser? (session : Nat) : Query (Option User) := do
  match ← (Ask.windows (.sessionUser session) : Program (Option (List UInt16))) with
  | none => return none
  | some units =>
    let name := wideText units
    if name.isEmpty then return none
    let client ← (Ask.windows (.sessionClient session) : Program (Option (Nat × Bytes)))
    let info ← (Ask.windows (.sessionInfo session) : Program (Option (Int × List UInt16)))
    let station := (info.map fun (_, station) => wideText station).filter fun s => !s.isEmpty
    let started := match info with
      | some (logon, _) => if logon > 0 then seconds (logon - unixEpoch) else 0.0
      | none => 0.0
    return some { name, terminal := station, host := client.bind fun (f, a) => clientHost f a, started }

def users : Query (List User) := do
  let sessions ← answered "WTSEnumerateSessionsW" (← (Ask.windows .sessions : Program (Except IoError (List Nat))))
  return (← sessions.mapM sessionUser?).filterMap id

end HostProbe.Windows
