import HostProbe.Footprint.WorkingSet
import HostProbe.Liveness
import HostProbe.Windows.CommandLine
import HostProbe.Windows.Disks
import HostProbe.Windows.Processors

/-! Processes of a Windows system: the kernel's list of all of them, and what is asked of one that was opened. -/
namespace HostProbe.Windows

/-! ### Existence -/

def processes (context : Context) : Query (List ProcessEntry) := do
  let filled ← systemInformation context 5 "SystemProcessInformation" (256 * 1024)
  return ProcessEntry.list filled.bytes filled.address

def entry (context : Context) (pid : Pid) : Query ProcessEntry := do
  Query.lift (checkPid pid)
  match (← processes context).find? fun e => e.pid == pid with
  | some e => return e
  | none => Query.report (.notFound pid)

/-- Whether a process is on the list; nothing is on a list that cannot be had. -/
def isListed (context : Context) (pid : Pid) : Program Bool := do
  match ← (processes context).run with
  | .ok entries => return entries.any fun e => e.pid == pid
  | .error _ => return false

/-! Rights to a process. -/
namespace Access

def terminate : Nat := 0x1
def readMemory : Nat := 0x10
def duplicate : Nat := 0x40
def change : Nat := 0x200
def query : Nat := 0x400
def suspend : Nat := 0x800
def queryLimited : Nat := 0x1000

end Access

/-- Exit code of a process that runs; a process may also exit with it. -/
def stillActive : Nat := 259

/-- Whether a process exists. One that has exited may still be opened while others hold it, so an exit code tells
more than the handle; a refusal shows that there is a process. -/
def pidExists (context : Context) (pid : Pid) : Program Bool := do
  if pid < 0 then return false
  if pid = 0 then return true
  match ← (Ask.windows (.openProcess pid Access.queryLimited) : Program (Except IoError Unit)) with
  | .ok () =>
    match ← (Ask.windows (.exitCode pid) : Program (Except IoError Nat)) with
    | .ok code => if code ≠ stillActive then return false else isListed context pid
    | .error _ => isListed context pid
  | .error cause =>
    if cause.kind = .permissionDenied then return true
    if cause = .number invalidParameter then return false
    isListed context pid

/-- Processes end without leaving zombies. -/
def live (context : Context) : Liveness Program where
  pidExists := pidExists context
  isZombie _ := return false

/-- Opens a process that has not exited. The process that idles cannot be opened. -/
def openProcess (context : Context) (pid : Pid) (access : Nat) : Query Unit := do
  Query.lift (checkPid pid)
  if pid = 0 then Query.report (.permissionDenied pid "OpenProcess")
  match ← (Ask.windows (.openProcess pid (access ||| Access.queryLimited)) : Program (Except IoError Unit)) with
  | .error cause =>
    if cause = .number invalidParameter then Query.report (.notFound pid)
    (live context).fail pid "OpenProcess" cause
  | .ok () =>
    match ← (Ask.windows (.exitCode pid) : Program (Except IoError Nat)) with
    | .error _ => return ()
    | .ok code =>
      if code ≠ stillActive then
        if !(← (isListed context pid : Program Bool)) then Query.report (.notFound pid)

def answeredFor {α : Type} (context : Context) (pid : Pid) (call : String) : Except IoError α → Query α
  | .ok a => return a
  | .error cause => (live context).fail pid call cause

/-- What the list tells, where a query is refused for lack of rights. -/
def orListed {α : Type} (context : Context) (pid : Pid) (query : Query α) (ofEntry : ProcessEntry → α) : Query α := do
  match ← query.attempt with
  | .ok a => return a
  | .error error =>
    if error.kind = .permissionDenied then return ofEntry (← entry context pid)
    Query.report error

/-! ### What was started -/

def exe (context : Context) (pid : Pid) : Query String := do
  let call := "QueryFullProcessImageNameW"
  openProcess context pid Access.queryLimited
  let path ← (live context).classifyFor pid <| Growth.untilFits context.buffers 2 call 260 fun buffer => do
    match ← (Ask.windows (.imageName pid buffer.length) : Program (Except IoError (List UInt16))) with
    | .ok units => return .done (buffer.fill units, units.length)
    | .error cause =>
      if cause = .number insufficientBuffer then return .tooSmall none
      Query.report (.os call cause)
  return Utf16.toString path

def commandLine (context : Context) (pid : Pid) : Query (List String) := do
  openProcess context pid Access.queryLimited
  let filled ← (live context).classifyFor pid <|
    nativeUntilFits context "NtQueryInformationProcess(ProcessCommandLineInformation)" 1024
      [NtStatus.lengthMismatch, NtStatus.bufferTooSmall, NtStatus.bufferOverflow] fun size =>
      Ask.windows (.commandLine pid size)
  let line := (StringPlace.layout.first? filled.bytes).bind fun place => place.text? filled.bytes filled.address
  return (CommandLine.split (line.getD "").toList).map String.ofList

/-! ### Memory of other processes -/

def readMemory (pid : Pid) (address size : Nat) : Query Bytes := do
  answered "ReadProcessMemory" (← (Ask.windows (.readMemory pid address size) : Program (Except IoError Bytes)))

def readPointer (pid : Pid) (address : Nat) : Query Nat := do
  match Bytes.slice? (← readMemory pid address 8) 0 8 with
  | some b => return Bytes.toNat b
  | none => Query.report (.os "ReadProcessMemory" (.bare .unexpectedEnd))

def parametersOffset : Nat := 0x20
def directoryOffset : Nat := 0x38
def environmentOffset : Nat := 0x80

def parameters (context : Context) (pid : Pid) : Query Nat := do
  openProcess context pid (Access.query ||| Access.readMemory)
  match ← (Ask.windows (.environmentBlock pid) : Program (Except NtStatus Nat)) with
  | .error status =>
    (live context).classifyFor pid (nativeFailure "NtQueryInformationProcess(ProcessBasicInformation)" status)
  | .ok block =>
    if block = 0 then
      Query.report (.unsupported "reading the parameters of a process with a different pointer width")
    let place ← Query.lift (Word.add block parametersOffset)
    (live context).classifyFor pid (readPointer pid place)

def trimDirectory (path : Text) : Text :=
  if Text.byteLength path > 3 && path.getLast? = some '\\' then path.dropLast else path

def workingDirectory (context : Context) (pid : Pid) : Query String := do
  let parameters ← parameters context pid
  (live context).classifyFor pid do
    let raw ← readMemory pid (← Query.lift (Word.add parameters directoryOffset)) StringPlace.layout.size
    match StringPlace.layout.first? raw with
    | none => return ""
    | some place =>
      let bytes ← readMemory pid place.address place.length
      return String.ofList (trimDirectory (Utf16.decodeLossy (unitsOfBytes bytes)))

def environmentLimit : Nat := 1024 * 1024

/-- How many bytes there are from an address to the end of its range. -/
def remaining (pid : Pid) (address : Nat) : Query Nat := do
  let range ← answered "VirtualQueryEx" (← (Ask.windows (.pages pid address) : Program (Except IoError PageRange)))
  return (← Query.lift (Word.add range.base range.size)) - address

def environment (context : Context) (pid : Pid) : Query (List String) := do
  let parameters ← parameters context pid
  (live context).classifyFor pid do
    let block ← readPointer pid (← Query.lift (Word.add parameters environmentOffset))
    let size := min (← remaining pid block) environmentLimit
    return splitEnvironment (← readMemory pid block size)

/-! ### Times and counters -/

def kernelPid : Pid := 4

def times (context : Context) (pid : Pid) : Query ProcessTicks := do
  openProcess context pid Access.queryLimited
  answeredFor context pid "GetProcessTimes"
    (← (Ask.windows (.processTimes pid) : Program (Except IoError ProcessTicks)))

/-- The kernel's own processes are as old as the system. -/
def createTime (context : Context) (pid : Pid) : Query Float := do
  if pid = 0 || pid = kernelPid then return ← bootTime
  orListed context pid (do Query.lift (unixTime (← times context pid).created)) ProcessEntry.createTime

def processCpuTimes (context : Context) (pid : Pid) : Query ProcessCpuTimes :=
  orListed context pid (do
    let t ← times context pid
    return { user := seconds t.user, system := seconds t.kernel }) ProcessEntry.cpuTimes

def memoryInfo (context : Context) (pid : Pid) : Query ProcessMemory :=
  orListed context pid (do
    openProcess context pid Access.queryLimited
    let c ← answeredFor context pid "GetProcessMemoryInfo"
      (← (Ask.windows (.memoryCounters (.opened pid)) : Program (Except IoError WorkingSetCounters)))
    return { rss := c.workingSet, vms := c.privateUsage, pageFaults := some c.faults, peakRss := some c.peak })
    ProcessEntry.memory

def memoryFullInfo (context : Context) (pid : Pid) : Query MemoryFootprint := do
  Query.lift (checkPid pid)
  let querier ← (Footprint.WorkingSet.new (.pid pid) : Program Footprint.WorkingSet)
  match ← (querier.footprint.run : Program (FootprintOutcome Footprint)) with
  | .ok footprint => Query.lift footprint.memory
  | .error (.report cause) => (live context).fail pid "QueryWorkingSet" cause
  | .error .abort => throw .abort

def ioCounters (context : Context) (pid : Pid) : Query IoCounters :=
  orListed context pid (do
    openProcess context pid Access.queryLimited
    let c ← answeredFor context pid "GetProcessIoCounters"
      (← (Ask.windows (.transfers pid) : Program (Except IoError TransferCounters)))
    return { readCount := c.reads, writeCount := c.writes, readBytes := c.readBytes, writeBytes := c.writtenBytes })
    ProcessEntry.io

def handleCount (context : Context) (pid : Pid) : Query Nat :=
  orListed context pid (do
    openProcess context pid Access.queryLimited
    answeredFor context pid "GetProcessHandleCount"
      (← (Ask.windows (.handleCount pid) : Program (Except IoError Nat)))) ProcessEntry.handles

/-! ### Maps -/

/-- What the pages of a protection allow; pages that are copied on writing say so. -/
def permissionsOf (protection : Nat) : String :=
  match protection % 256 with
  | 0x02 => "r--"
  | 0x04 => "rw-"
  | 0x08 => "rw-c"
  | 0x10 => "--x"
  | 0x20 => "r-x"
  | 0x40 => "rwx"
  | 0x80 => "rwxc"
  | _ => "---"

/-- State of pages that are in use, and types of those that hold files. -/
def committed : Nat := 0x1000
def imageType : Nat := 0x1000000
def mappedType : Nat := 0x40000

def pathRoom : Nat := 32768

def mapOf (pid : Pid) (devices : List (String × String)) (range : PageRange) : Program (Option MemoryMap) := do
  if range.state ≠ committed || !(range.type == imageType || range.type == mappedType) then return none
  match ← (Ask.windows (.mappedFile pid range.base pathRoom) : Program (Except IoError (List UInt16))) with
  | .error _ => return none
  | .ok units =>
    return some {
      address := "0x" ++ Integer.toHex range.base, perms := permissionsOf range.protection
      path := drivePath (wideText units) devices, size := range.size, rss := range.size }

/-- The maps from an address on, range by range until one cannot be had or leads no further; only the first must be
had. -/
def mapsFrom (context : Context) (pid : Pid) (devices : List (String × String)) (address : Nat)
    (found : List MemoryMap) : Query (List MemoryMap) := do
  match ← (Ask.windows (.pages pid address) : Program (Except IoError PageRange)) with
  | .error cause => if address = 0 then (live context).fail pid "VirtualQueryEx" cause else return found.reverse
  | .ok range =>
    let map ← (mapOf pid devices range : Program (Option MemoryMap))
    let found := map.toList ++ found
    let next := range.base + range.size
    if address < next ∧ next < Word.span then mapsFrom context pid devices next found
    else return found.reverse
termination_by Word.span - address
decreasing_by omega

def memoryMaps (context : Context) (pid : Pid) : Query (List MemoryMap) := do
  openProcess context pid (Access.query ||| Access.readMemory)
  let devices ← driveDevices
  mapsFrom context pid devices 0 []

/-! ### Open files -/

def stripMark (path : Text) : Text :=
  let unc := "\\\\?\\UNC\\".toList
  let mark := "\\\\?\\".toList
  if unc.isPrefixOf path then '\\' :: '\\' :: path.drop unc.length
  else if mark.isPrefixOf path then path.drop mark.length
  else path

def diskFile : Nat := 1
def directoryAttribute : Nat := 0x10

def filePath? (handle : Nat) : Program (Option String) := do
  if (← Ask.windows (.fileType handle)) ≠ diskFile then return none
  let attributes ← (Ask.windows (.fileAttributes handle) : Program (Except IoError Nat))
  if attributes.toOption.any fun a => a &&& directoryAttribute != 0 then return none
  match ← (Ask.windows (.finalPath handle pathRoom) : Program (Except IoError (List UInt16))) with
  | .error _ => return none
  | .ok units =>
    if units.isEmpty || units.length ≥ pathRoom then return none
    return some (String.ofList (stripMark (wideText units).toList))

/-- The path as a thread finds it that is ended when it takes too long. -/
def boundedPath? (context : Context) (handle : Nat) : Program (Option String) := do
  match ← (Ask.windows .startThread : Program (Except IoError Unit)) with
  | .error _ => return none
  | .ok () =>
    let path ← filePath? handle
    if ← Ask.windows (.awaitThread handle context.hangingCallTimeout) then return path
    Ask.windows .terminateThread
    return none

/-- The file of a handle; handles that cannot be copied or lead to none are passed over. -/
def openFile? (context : Context) (pid : Pid) (handle : Nat) : Program (Option OpenFile) := do
  match ← (Ask.windows (.duplicate pid handle) : Program (Except IoError Unit)) with
  | .error _ => return none
  | .ok () => return (← boundedPath? context handle).map fun path => { path, fd := -1 }

def openFiles (context : Context) (pid : Pid) : Query (List OpenFile) := do
  openProcess context pid Access.duplicate
  let table ← systemInformation context 64 "SystemExtendedHandleInformation" (1024 * 1024)
  let found ← ((handlesOf table.bytes pid).mapM (openFile? context pid) : Program (List (Option OpenFile)))
  return found.filterMap id

/-! ### Commands -/

def refused {α : Type} (call detail : String) : Query α := Query.report (.os call (.custom .invalidInput detail))

def priorityClass (context : Context) (pid : Pid) : Query Int := do
  openProcess context pid Access.queryLimited
  let cls ← answeredFor context pid "GetPriorityClass"
    (← (Ask.windows (.priorityClass pid) : Program (Except IoError Nat)))
  return Word.toInt 32 cls

/-- Idle, below normal, normal, above normal, high and real time. -/
def priorityClasses : List Nat := [0x40, 0x4000, 0x20, 0x8000, 0x80, 0x100]

def setPriorityClass (context : Context) (pid : Pid) (value : Int) : Query Unit := do
  let cls := Word.ofInt 32 value
  if !priorityClasses.contains cls then
    refused "SetPriorityClass" s!"0x{Integer.toHex cls} is not a priority class"
  openProcess context pid Access.change
  answeredFor context pid "SetPriorityClass"
    (← (Ask.windows (.setPriorityClass pid cls) : Program (Except IoError Unit)))

def cpusOfMask (mask : Nat) : List Nat := (List.range 64).filter mask.testBit

def maskOfCpus? (cpus : List Nat) (system : Nat) : Option Nat :=
  if !cpus.isEmpty && cpus.all fun cpu => cpu < 64 && system.testBit cpu then
    some (cpus.foldl (fun mask cpu => mask ||| 1 <<< cpu) 0)
  else none

def affinityMasks (context : Context) (pid : Pid) : Query (Nat × Nat) := do
  answeredFor context pid "GetProcessAffinityMask"
    (← (Ask.windows (.affinityMasks pid) : Program (Except IoError (Nat × Nat))))

def cpuAffinity (context : Context) (pid : Pid) : Query (List Nat) := do
  openProcess context pid Access.queryLimited
  return cpusOfMask (← affinityMasks context pid).1

def setCpuAffinity (context : Context) (pid : Pid) (cpus : List Nat) : Query Unit := do
  let call := "SetProcessAffinityMask"
  openProcess context pid Access.change
  match maskOfCpus? cpus (← affinityMasks context pid).2 with
  | none => refused call ("invalid CPU set [" ++ ", ".intercalate (cpus.map toString) ++ "]")
  | some mask =>
    answeredFor context pid call (← (Ask.windows (.setAffinityMask pid mask) : Program (Except IoError Unit)))

def terminatedCode : Nat := 15

def terminate (context : Context) (pid : Pid) : Query Unit := do
  openProcess context pid Access.terminate
  answeredFor context pid "TerminateProcess"
    (← (Ask.windows (.terminate pid terminatedCode) : Program (Except IoError Unit)))

def control (context : Context) (pid : Pid) (call : String) (command : Program NtStatus) : Query Unit := do
  openProcess context pid Access.suspend
  let status ← (command : Program NtStatus)
  if NtStatus.isFailure status then (live context).classifyFor pid (nativeFailure call status)

def suspend (context : Context) (pid : Pid) : Query Unit :=
  control context pid "NtSuspendProcess" (Ask.windows (.suspend pid))

def resume (context : Context) (pid : Pid) : Query Unit :=
  control context pid "NtResumeProcess" (Ask.windows (.resume pid))

end HostProbe.Windows
