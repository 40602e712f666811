import HostProbe.Context
import HostProbe.Liveness
import HostProbe.Number.Real
import HostProbe.Posix.Process
import HostProbe.Posix.System
import HostProbe.Procfs.ProcessRecords
import HostProbe.Procfs.Processes
import HostProbe.Procfs.Stat
import HostProbe.Procfs.Tree

/-! What a Linux probe knows of its system from the start, and the files that several queries read. -/
namespace HostProbe.Linux

/-- What shows that a process is there: its files, or that a signal could be sent to it. -/
inductive Evidence
  | files
  | signals
  deriving Repr, DecidableEq, Inhabited

structure Probe where
  context : Context := {}
  evidence : Evidence := .files
  procfs : Procfs := ⟨"/proc"⟩
  sysfs : String := "/sys"
  devfs : String := "/dev"
  clockTicks : Float := 100.0
  pageSize : Nat := 4096
  deriving Inhabited

namespace Probe

/-- The other file systems are mounted beside the process file system. -/
def new (context : Context) : Program Probe := do
  let base := (Path.parent? context.procfsRoot).getD "/"
  let ticks ← Posix.positiveSetting .clockTicks 100
  let pageSize ← Posix.positiveSetting .pageSize 4096
  return {
    context, procfs := ⟨context.procfsRoot⟩, sysfs := Path.join base "sys", devfs := Path.join base "dev",
    clockTicks := Real.ofNat ticks, pageSize }

/-- Identity that the `status` of a process names as its own; threads name the identity of their process. -/
def groupOfStatus (text : Text) : Option Pid :=
  (Procfs.lastOf? (Procfs.parseStatus text) "Tgid").bind Integer.int32?

def pidHasFiles (p : Probe) (pid : Pid) : Program Bool := do
  if pid < 0 then return false
  match ← Ask.readText (p.procfs.pidPath pid "status") with
  | .ok status => return groupOfStatus status = some pid
  | .error _ => Ask.fileExists (p.procfs.pidDir pid)

def pidExists (p : Probe) (pid : Pid) : Program Bool :=
  match p.evidence with
  | .files => p.pidHasFiles pid
  | .signals => Posix.pidExists pid

def isZombie (p : Probe) (pid : Pid) : Program Bool := do
  match ← Ask.readText (p.procfs.pidPath pid "stat") with
  | .error _ => return false
  | .ok stat =>
    match Procfs.ProcessStat.parse stat with
    | .ok stat => return stat.state = 'Z'
    | .error _ => return false

def live (p : Probe) : Liveness Program := ⟨p.pidExists, p.isZombie⟩

def stat (p : Probe) : Query Procfs.Stat := do
  Query.lift (Procfs.Stat.parse (← p.procfs.read "stat") p.clockTicks)

/-- Seconds on the wall clock; a clock before the epoch counts as being at it. -/
def now : Program Float := do
  let (seconds, nanoseconds) ← Ask.posix .now
  return if seconds < 0 then 0.0 else Real.ofInt seconds + Real.ofNat nanoseconds / 1000000000.0

def bootTime (p : Probe) : Query Float := do
  if let some bootTime := (← p.stat).bootTime then return Real.ofNat bootTime
  let now ← now
  Query.lift (Procfs.bootTimeFromUptime (← p.procfs.read "uptime") now)

/-- A file of a process, its failures told apart by what they say about the process. -/
def processText (p : Probe) (pid : Pid) (name : String) : Query Text := do
  Query.lift (checkPid pid)
  p.live.classifyFor pid (p.procfs.readPid pid name)

def processRecord {α : Type} (p : Probe) (pid : Pid) (name : String) (parse : Text → Outcome α) : Query α := do
  let text ← p.processText pid name
  p.live.classifyFor pid (Query.lift (parse text))

def processStat (p : Probe) (pid : Pid) : Query Procfs.ProcessStat :=
  p.processRecord pid "stat" Procfs.ProcessStat.parse

def seconds (p : Probe) (ticks : Nat) : Float := Real.ofNat ticks / p.clockTicks

def createTime (p : Probe) (pid : Pid) : Query Float := do
  let stat ← p.processStat pid
  return (← p.bootTime) + p.seconds stat.startTicks

def cpuTimesOfStat (p : Probe) (stat : Procfs.ProcessStat) : ProcessCpuTimes where
  user := p.seconds stat.userTicks
  system := p.seconds stat.systemTicks
  childrenUser := some (p.seconds stat.childrenUserTicks.toNat)
  childrenSystem := some (p.seconds stat.childrenSystemTicks.toNat)

/-- Memory of a process from its page counts; the highest resident size is a matter of the caller. -/
def memoryOfPages (p : Probe) (statm : Procfs.Statm) (stat : Procfs.ProcessStat) (peakRss : Option Nat) :
    Outcome ProcessMemory := do
  let pages (n : Nat) : Outcome Nat := Word.mul n p.pageSize
  let rss ← pages statm.resident
  let vms ← pages statm.size
  let shared ← pages statm.shared
  let text ← pages statm.text
  let data ← pages statm.data
  let pageFaults ← Word.add stat.minorFaults stat.majorFaults
  return { rss, vms, shared, text, data, pageFaults, peakRss }

end Probe
end HostProbe.Linux
