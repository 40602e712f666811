import HostProbe.Linux.Probe
import HostProbe.Posix.System

/-! Open files, threads, the executable and the terminal of a process. -/
namespace HostProbe.Linux.Probe

def isAbsoluteTarget (target : Bytes) : Bool := target.head? = some 47

/-- The file behind one descriptor. The link is followed, not its text, so that deleted files are found too;
sockets, pipes and the like are no files. -/
def fileOfEntry (dir name : String) : Program (Option OpenFile) := do
  match Integer.int32? name.toList with
  | none => return none
  | some fd =>
    let path := Path.join dir name
    match ← Ask.file (.readLink path) with
    | .error _ => return none
    | .ok target =>
      if !isAbsoluteTarget target then return none
      match ← Ask.file (.info path) with
      | .ok info => return if info.kind = .regular then some { path := Utf8.toString target, fd } else none
      | .error _ => return none

def sortByDescriptor (files : List OpenFile) : List OpenFile := files.mergeSort fun a b => a.fd ≤ b.fd

def openFiles (p : Probe) (pid : Pid) : Query (List OpenFile) := do
  let names ← p.procfs.processEntries p.live pid "fd"
  let dir := p.procfs.pidPath pid "fd"
  let files ← names.mapM fun name => (fileOfEntry dir name : Program _)
  return sortByDescriptor (files.filterMap id)

def descriptorCount (p : Probe) (pid : Pid) : Query Nat := do return (← p.procfs.processEntries p.live pid "fd").length

/-- Times of the thread of an entry, unless it exited since it was listed. -/
def threadOfEntry (p : Probe) (pid : Pid) (dir name : String) : Query (Option ThreadTimes) := do
  match Integer.word? name.toList with
  | none => return none
  | some id =>
    match ← (Ask.readText (Path.join (Path.join dir name) "stat") : Program (Except IoError Text)) with
    | .error _ => return none
    | .ok text =>
      let stat ← p.live.classifyFor pid (Query.lift (Procfs.ProcessStat.parse text))
      return some { id, user := p.seconds stat.userTicks, system := p.seconds stat.systemTicks }

def threads (p : Probe) (pid : Pid) : Query (List ThreadTimes) := do
  let names ← p.procfs.processEntries p.live pid "task"
  let dir := p.procfs.pidPath pid "task"
  let threads ← names.mapM (p.threadOfEntry pid dir)
  return (threads.filterMap id).mergeSort fun a b => a.id ≤ b.id

def executableLink (p : Probe) (pid : Pid) : Query String := p.procfs.processLink p.live pid "exe"

/-- Path of the executable. Kernel threads have none: their link is missing while they are alive. -/
def exe (p : Probe) (pid : Pid) : Query String := do
  Query.lift (checkPid pid)
  match ← (p.procfs.readPidLink pid "exe").attempt with
  | .ok target => return Utf8.toString target
  | .error error =>
    let missing : Bool := match error with
      | .os _ cause => cause.kind = .notFound
      | _ => false
    if missing then
      if ← (p.pidExists pid : Program Bool) then
        if !(← (p.isZombie pid : Program Bool)) then return ""
    p.live.classifyFor pid (Query.report error)

def workingDirectory (p : Probe) (pid : Pid) : Query String := p.procfs.processLink p.live pid "cwd"

/-- Terminal of a device number, sought among the devices and the pseudo terminals; number zero is no terminal. -/
def terminalName (devfs : String) (number : Nat) : Program (Option String) :=
  if number = 0 then return none else Posix.deviceIn number [devfs, Path.join devfs "pts"]

def terminal (p : Probe) (pid : Pid) : Query (Option String) := do
  let stat ← p.processStat pid
  terminalName p.devfs stat.terminal

end HostProbe.Linux.Probe
