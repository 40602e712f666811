import HostProbe.AIX.Records
import HostProbe.Context
import HostProbe.Platform
import HostProbe.Posix.Process
import HostProbe.Posix.System
import HostProbe.Procfs.Blocks
import HostProbe.Procfs.Processes

/-! AIX as a platform: processes are known by a process file system of binary records, of the system little is told. -/
namespace HostProbe.AIX

/-- Where a command may lie: at its own path, below the working directory, or in the directories of a search path. -/
inductive CommandPlace
  | file (path : String)
  | among (candidates : List String)
  deriving Repr, DecidableEq, Inhabited

/-- Where the command of a process lies. One with a slash is taken as a path, relative to the working directory; any
other is sought in the search path, whose empty entries count for nothing. -/
def CommandPlace.of? (command : String) (directory searchPath : Option String) : Option CommandPlace :=
  let text := command.toList
  if text.isEmpty then none
  else if text.head? = some '/' then some (.file command)
  else if text.contains '/' then directory.map fun d => .file (Path.join d command)
  else searchPath.map fun dirs =>
    .among (((dirs.toList.splitOn ':').filter fun d => !d.isEmpty).map fun d => Path.join (String.ofList d) command)

def firstAmong {m : Type → Type} [Monad m] (passes : String → m Bool) : List String → m (Option String)
  | [] => return none
  | path :: rest => do if ← passes path then return some path else firstAmong passes rest

def resolveExecutable {m : Type → Type} [Monad m] (command : String) (directory searchPath : Option String)
    (isExecutable : String → m Bool) : m (Option String) :=
  match CommandPlace.of? command directory searchPath with
  | none => return none
  | some (.file path) => return some path
  | some (.among candidates) => firstAmong isExecutable candidates

structure Probe where
  procfs : Procfs
  deriving Inhabited

namespace Probe

def live (p : Probe) : Liveness Program :=
  ⟨Posix.pidExists, p.procfs.recordShows ProcessInfo.layout "psinfo" ProcessInfo.isZombie⟩

def info (p : Probe) (pid : Pid) : Query ProcessInfo := p.procfs.processRecord p.live ProcessInfo.layout pid "psinfo"

def runState (p : Probe) (pid : Pid) : Query RunState := p.procfs.processRecord p.live RunState.layout pid "status"

def credentials (p : Probe) (pid : Pid) : Query Credentials :=
  p.procfs.processRecord p.live Credentials.layout pid "cred"

/-- The first process was started with the system. -/
def bootTime (p : Probe) : Query Float := do return (← p.info 1).startTime

def cpuCountLogical : Query Nat := do
  let online ← (Ask.posix (.setting .processors) : Program Int)
  if online > 0 then return online.toNat
  Query.report (.os "sysconf(_SC_NPROCESSORS_ONLN)" (.number (← (Ask.posix .lastError : Program ErrorNumber))))

def addressSpace (p : Probe) (pid : Pid) : Query (AddressSpace Program) := do
  let state ← p.runState pid
  p.procfs.addressSpace p.live pid state.pointerSize

def fullArguments (p : Probe) (pid : Pid) (info : ProcessInfo) : Query (List String) := do
  let space ← p.addressSpace pid
  p.live.classifyFor pid (space.argv info.argumentVector info.argumentCount)

def commandLine (p : Probe) (pid : Pid) : Query (List String) := do
  let info ← p.info pid
  Procfs.argumentsOr (p.fullArguments pid info) info.shortArguments

def environment (p : Probe) (pid : Pid) : Query (Table String) := do
  let info ← p.info pid
  let space ← p.addressSpace pid
  return Environment.ofEntries (← p.live.classifyFor pid (space.envp info.environmentVector))

def workingDirectory (p : Probe) (pid : Pid) : Query String := p.procfs.processLink p.live pid "cwd"

def isExecutable (path : String) : Program Bool := do
  match ← Ask.file (.info path) with
  | .ok info => return info.kind = .regular && info.executable
  | .error _ => return false

/-- The executable is not told, so it is looked for as a shell would: by the first argument, the working directory
and the search path of the environment. -/
def exe (p : Probe) (pid : Pid) : Query String := do
  let args ← p.commandLine pid
  let directory ← (p.workingDirectory pid).answer?
  let environment ← (p.environment pid).answer?
  let searchPath := environment.bind fun v => Table.get? v "PATH"
  match ← (resolveExecutable (args.head?.getD "") directory searchPath isExecutable : Program (Option String)) with
  | some path => return path
  | none => Query.report (.unsupported "proc_exe")

def terminal (p : Probe) (pid : Pid) : Query (Option String) := do
  let info ← p.info pid
  if info.terminal = ProcessInfo.noTerminal then return none
  Posix.terminalName info.terminal

def memoryInfo (p : Probe) (pid : Pid) : Query ProcessMemory := do
  let info ← p.info pid
  return {
    rss := ← Query.lift (Word.mul info.residentKiB 1024), vms := ← Query.lift (Word.mul info.sizeKiB 1024) }

end Probe

def platform (p : Probe) : Platform where
  bootTime := p.bootTime
  cpuCountLogical := Probe.cpuCountLogical
  diskUsage := Posix.diskUsage
  pids := p.procfs.pids
  pidExists pid := Posix.pidExists pid
  name pid := do return (← p.info pid).name
  exe := p.exe
  commandLine := p.commandLine
  environment := p.environment
  workingDirectory := p.workingDirectory
  parent pid := do return (← p.info pid).ppid
  status pid := do return (← p.info pid).status
  userIds pid := do return (← p.credentials pid).user
  groupIds pid := do return (← p.credentials pid).group
  terminal := p.terminal
  createTime pid := do return (← p.info pid).startTime
  processCpuTimes pid := do return (← p.runState pid).times
  memoryInfo := p.memoryInfo
  threadCount pid := do return (← p.info pid).threads
  descriptorCount pid := do return (← p.procfs.processEntries p.live pid "fd").length
  nice pid := Posix.getPriority p.live pid
  setNice pid value := Posix.setPriority p.live pid value
  sendSignal pid signal := Posix.sendSignal .linux p.live pid signal
  isZombie pid := do return (← p.info pid).isZombie

end HostProbe.AIX
