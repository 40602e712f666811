import HostProbe.AddressSpace
import HostProbe.Liveness
import HostProbe.Procfs.Tree
import HostProbe.Record.Process
import HostProbe.RecordLayout

/-! Files of a process whose failures are told apart by what they say about the process. -/
namespace HostProbe.Procfs

def processRecord {α : Type} (fs : Procfs) (live : Liveness Program) (layout : RecordLayout α) (pid : Pid)
    (name : String) : Query α := do
  Query.lift (checkPid pid)
  let bytes ← live.classifyFor pid (fs.readPidBytes pid name)
  live.classifyFor pid (Query.lift (layout.decode (fs.pidPath pid name) bytes))

def processEntries (fs : Procfs) (live : Liveness Program) (pid : Pid) (name : String) : Query (List String) := do
  Query.lift (checkPid pid)
  let dir := fs.pidPath pid name
  match ← (Ask.file (.list dir) : Program (Except IoError (List String))) with
  | .ok names => return names
  | .error cause => live.fail pid s!"opendir({dir})" cause

def processLink (fs : Procfs) (live : Liveness Program) (pid : Pid) (name : String) : Query String := do
  Query.lift (checkPid pid)
  return Utf8.toString (← live.classifyFor pid (fs.readPidLink pid name))

def addressSpace (fs : Procfs) (live : Liveness Program) (pid : Pid) (pointerSize : Nat) :
    Query (AddressSpace Program) := do
  let path := fs.pidPath pid "as"
  live.classifyFor pid (Query.onPath "open" path (Ask.file (.openFile path)))
  return .new (fun address count => Ask.file (.readAt path address count)) pointerSize

/-- Arguments in full, or else as far as a record holds them: where there are none, and where the memory of another
user's process is off limits. -/
def argumentsOr (full : Query (List String)) (short : List String) : Query (List String) := do
  match ← full.attempt with
  | .ok args => return if args.isEmpty then short else args
  | .error (.permissionDenied ..) => return short
  | .error error => Query.report error

/-- Whether the record that a binary file of a process begins with is one of a zombie. -/
def recordShows {α : Type} (fs : Procfs) (layout : RecordLayout α) (name : String) (shows : α → Bool) (pid : Pid) :
    Program Bool := do
  match ← (fs.readPidBytes pid name).run with
  | .ok bytes => return ((layout.first? bytes).map shows).getD false
  | .error _ => return false

end HostProbe.Procfs
