import HostProbe.Bytes
import HostProbe.Context
import HostProbe.Growth
import HostProbe.Path
import HostProbe.Platform
import HostProbe.Posix.Process
import HostProbe.Posix.System

/-! Haiku as a platform: processes are teams, which end without leaving zombies. -/
namespace HostProbe.Haiku

def seconds (microseconds : Int) : Float := Real.ofNat microseconds.toNat / 1000000.0

def pageSize : Nat := 4096

def statusOfState : Int → ProcessStatus
  | 1 | 2 => .running
  | 3 | 6 => .waiting
  | 4 => .sleeping
  | 5 => .stopped
  | _ => .idle

/-- A summary of the system; a failing call's status takes the place of an error number. -/
def summary : Query SystemSummary := do
  match ← (Ask.team .summary : Program (Except TeamStatus SystemSummary)) with
  | .ok s => return s
  | .error status => Query.report (.os "get_system_info" (.number status))

def processors : Query (List ProcessorSummary) := do
  let count := (← summary).processors
  match ← (Ask.team (.processors count) : Program (Except TeamStatus (List ProcessorSummary))) with
  | .ok ps => return ps
  | .error status => Query.report (.os "get_cpu_info" (.number status))

/-! ### The system -/

/-- Only busy time is kept, whatever it was spent on. -/
def perCpuTimes : Query (List CpuTimes) := do
  let uptime ← (Ask.team .uptime : Program Int)
  (← processors).mapM fun p => do
    let idle ← Query.lift (Word.checkSigned 64 (uptime - p.activeTime))
    return { user := seconds p.activeTime, idle := seconds idle }

def cpuTimes : Query CpuTimes := do
  return (← perCpuTimes).foldl (fun t c => { t with user := t.user + c.user, idle := t.idle + c.idle }) {}

/-- The mean of the processors that are in use. -/
def cpuFrequency : Query CpuFrequency := do
  let enabled := (← processors).filter ProcessorSummary.enabled
  if enabled.isEmpty then Query.report (.unsupported "cpu_freq")
  let total := enabled.foldl (fun t p => t + Real.ofNat p.frequency) 0.0
  return { current := total / Real.ofNat enabled.length / 1000000.0 }

def memoryOf (s : SystemSummary) : Outcome VirtualMemory := do
  let total ← Word.mul s.maxPages pageSize
  let used ← Word.mul s.usedPages pageSize
  let cached ← Word.mul s.cachedPages pageSize
  let free := total - (← Word.add used cached)
  return { total, available := ← Word.add free cached, used, free, cached := some cached }

def swapOf (s : SystemSummary) : Outcome SwapMemory := do
  let total ← Word.mul s.maxSwapPages pageSize
  let free ← Word.mul s.freeSwapPages pageSize
  return { total, used := total - free, free, swappedIn := 0, swappedOut := 0 }

/-! ### Volumes -/

def isPersistent (v : TeamVolume) : Bool := v.flags &&& 0x4 != 0

def volumeOptions (flags : Nat) : String :=
  let access := if flags &&& 0x1 ≠ 0 then "ro" else "rw"
  ",".intercalate (access :: [(0x2, "removable"), (0x4, "persistent"), (0x8, "shared")].filterMap fun (bit, name) =>
    if flags &&& bit ≠ 0 then some name else none)

def pathOf? (root : Nat × Nat) : List String → Program (Option String)
  | [] => return none
  | path :: paths => do
    match ← Ask.file (.info path) with
    | .ok info => if (info.device, info.inode) = root then return some path else pathOf? root paths
    | .error _ => pathOf? root paths

/-- Where a volume is mounted: at the root or right below it. -/
def mountPoint? (v : TeamVolume) : Program (Option String) := do
  match v.root with
  | none => return none
  | some root =>
    let names ← Ask.file (.list "/")
    pathOf? root ("/" :: (names.toOption.getD []).map (Path.join "/"))

def partitions (all : Bool) : Query (List Partition) := do
  let volumes ← (Ask.team .volumes : Program (List TeamVolume))
  let found ← (volumes.filter fun v => all || isPersistent v).mapM fun v => do
    let place ← (mountPoint? v : Program (Option String))
    return place.map fun mountpoint => {
      device := Bytes.cString v.device, mountpoint, fstype := Bytes.cString v.fstype, opts := volumeOptions v.flags
      : Partition }
  return found.filterMap id

/-! ### Processes -/

def pids : Query (List Pid) := do
  let found ← (Ask.team .teams : Program (List Pid))
  Query.lift (ensureNonempty "get_next_team_info" (found.mergeSort (· ≤ ·)))

def pidExists (pid : Pid) : Program Bool := do
  if pid < 0 then return false
  Ask.team (.known pid)

def live : Liveness Program where
  pidExists := pidExists
  isZombie _ := return false

/-- A team that cannot be asked for is gone. -/
def team (pid : Pid) : Query TeamSummary := do
  Query.lift (checkPid pid)
  match ← (Ask.team (.team pid) : Program (Except TeamStatus TeamSummary)) with
  | .ok t => return t
  | .error _ => Query.report (.notFound pid)

def teamFailure {α : Type} (pid : Pid) (call : String) (status : TeamStatus) : Query α := do
  if !(← (pidExists pid : Program Bool)) then Query.report (.notFound pid)
  Query.report (.processOs pid call (.number status))

def usage (pid : Pid) (children : Bool) : Query (Int × Int) := do
  Query.lift (checkPid pid)
  match ← (Ask.team (.usage pid children) : Program (Except TeamStatus (Int × Int))) with
  | .ok times => return times
  | .error status => teamFailure pid "get_team_usage_info" status

def threads (pid : Pid) : Query (List TeamThread) := do
  let _ ← team pid
  return ← (Ask.team (.threads pid) : Program (List TeamThread))

def areas (pid : Pid) : Query (List TeamArea) := do
  let _ ← team pid
  return ← (Ask.team (.areas pid) : Program (List TeamArea))

/-- Type of the image of an application, and the status that stands for no entry. -/
def applicationImage : Int := 1
def noEntry : TeamStatus := -2147459069

def exe (pid : Pid) : Query String := do
  let _ ← team pid
  let images ← (Ask.team (.images pid) : Program (List TeamImage))
  match images.find? fun i => i.type == applicationImage with
  | some image => return Bytes.cString image.path
  | none => teamFailure pid "get_next_image_info" noEntry

def status (pid : Pid) : Query ProcessStatus := do
  let ts ← threads pid
  return (((ts.find? fun t => t.id == pid).or ts.head?).map fun t => statusOfState t.state).getD .idle

def createTime (pid : Pid) : Query Float := do
  let started := (← team pid).startTime
  return seconds (← summary).bootTime + seconds started

def processCpuTimes (pid : Pid) : Query ProcessCpuTimes := do
  let own ← usage pid false
  let children ← usage pid true
  return {
    user := seconds own.1, system := seconds own.2, childrenUser := some (seconds children.1)
    childrenSystem := some (seconds children.2) }

def memoryInfo (pid : Pid) : Query ProcessMemory := do
  let as ← areas pid
  let rss ← as.foldlM (fun sum a => Query.lift (Word.add sum a.resident)) 0
  let vms ← as.foldlM (fun sum a => Query.lift (Word.add sum a.size)) 0
  return { rss, vms }

def platform : Platform where
  bootTime := do return seconds (← summary).bootTime
  cpuTimes
  perCpuTimes
  cpuCountLogical := do return (← summary).processors
  cpuFrequency
  virtualMemory := do Query.lift (memoryOf (← summary))
  swapMemory := do Query.lift (swapOf (← summary))
  diskPartitions := partitions
  diskUsage := Posix.diskUsage
  pids
  pidExists pid := pidExists pid
  name pid := do
    let path ← exe pid
    return (Path.fileName? path).getD path
  exe
  parent pid := do return (← team pid).parent
  status
  userIds pid := do
    let t ← team pid
    return { real := t.realUser, effective := t.user, saved := t.user }
  groupIds pid := do
    let t ← team pid
    return { real := t.realGroup, effective := t.group, saved := t.group }
  createTime
  processCpuTimes
  memoryInfo
  threadCount pid := do return (← team pid).threads.toNat
  threads pid := do return (← threads pid).map fun t =>
    { id := t.id.toNat, user := seconds t.userTime, system := seconds t.kernelTime }
  nice pid := Posix.getPriority live pid
  setNice pid value := Posix.setPriority live pid value
  sendSignal pid signal := Posix.sendSignal .haiku live pid signal
  isZombie pid := do
    let _ ← team pid
    return false

end HostProbe.Haiku
