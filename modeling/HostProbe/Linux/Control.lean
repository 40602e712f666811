import HostProbe.Affinity
import HostProbe.Footprint.Smaps
import HostProbe.Linux.Probe

/-! Memory, processors and limits of a process. -/
namespace HostProbe.Linux.Probe

/-- Memory of a process; its highest resident size is in another file, which may be missing. -/
def memoryInfo (p : Probe) (pid : Pid) : Query ProcessMemory := do
  let statm ← p.processRecord pid "statm" Procfs.Statm.parse
  let stat ← p.processStat pid
  let peak ← match ← (p.processText pid "status").answer? with
    | none => pure none
    | some status => Query.lift (Procfs.statusAmount (Procfs.parseStatus status) "VmHWM")
  Query.lift (p.memoryOfPages statm stat peak)

def memoryFullInfo (p : Probe) (pid : Pid) : Query MemoryFootprint := do
  Query.lift (checkPid pid)
  let querier ← (Footprint.Querier.new p.procfs (.pid pid) : Program _)
  match (← (querier.footprint : Program _)).1 with
  | .ok footprint => Query.lift footprint.memory
  | .error (.report cause) => p.live.fail pid "smaps" cause
  | .error .abort => throw .abort

/-- The mask of processors, in a buffer that grows while the kernel calls it too small. -/
def affinityMask (p : Probe) (pid : Pid) : Query (List Nat) :=
  Growth.untilFits p.context.buffers 8 "sched_getaffinity" Affinity.initialWords fun buffer => do
    match ← (Ask.posix (.getAffinity pid (buffer.length * 8)) : Program (Except IoError (List Nat))) with
    | .ok words => return .done (buffer.fill words, buffer.length)
    | .error cause =>
      if cause = .number ErrorNumber.invalidArgument then return .tooSmall none
      p.live.fail pid "sched_getaffinity" cause

def cpuAffinity (p : Probe) (pid : Pid) : Query (List Nat) := do
  Query.lift (checkPid pid)
  return Affinity.cpusOfMask (← p.affinityMask pid)

def setCpuAffinity (p : Probe) (pid : Pid) (cpus : List Nat) : Query Unit := do
  Query.lift (checkPid pid)
  if cpus.isEmpty then Query.report (.os "sched_setaffinity" (.custom .invalidInput "empty CPU set"))
  match ← (Ask.posix (.setAffinity pid (Affinity.maskOfCpus cpus)) : Program (Except IoError Unit)) with
  | .ok () => return ()
  | .error cause => p.live.fail pid "sched_setaffinity" cause

def resourceNumber : Resource → Nat
  | .cpuTime => 0
  | .fileSize => 1
  | .dataSize => 2
  | .stackSize => 3
  | .coreFileSize => 4
  | .residentSet => 5
  | .processes => 6
  | .openFiles => 7
  | .lockedMemory => 8
  | .addressSpace => 9
  | .locks => 10
  | .pendingSignals => 11
  | .messageQueue => 12
  | .nice => 13
  | .realtimePriority => 14
  | .realtimeTime => 15

/-- A bound, which is infinite when all its bits are set. -/
def finite (bound : Nat) : Option Nat := if bound = Word.top then none else some bound

def resourceLimit (p : Probe) (pid : Pid) (resource : Resource) : Query ResourceLimit := do
  Query.lift (checkPid pid)
  match ← (Ask.posix (.resourceLimit pid (resourceNumber resource)) : Program (Except IoError (Nat × Nat))) with
  | .ok (soft, hard) => return { soft := finite soft, hard := finite hard }
  | .error cause => p.live.fail pid "prlimit" cause

end HostProbe.Linux.Probe
