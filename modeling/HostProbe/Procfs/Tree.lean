import HostProbe.Number.Integer
import HostProbe.Path
import HostProbe.Program

/-! The process file system as a tree of files below its root. -/
namespace HostProbe

def pathError (call path : String) (cause : IoError) : Error := .os s!"{call}({path})" cause

namespace Query

def onPath {α : Type} (call path : String) (question : Program (Except IoError α)) : Query α := do
  match ← (question : Program _) with
  | .ok a => return a
  | .error cause => report (pathError call path cause)

end Query

structure Procfs where
  root : String
  deriving Repr, DecidableEq, Inhabited

namespace Procfs

def path (fs : Procfs) (relative : String) : String := Path.join fs.root relative

def pidDir (fs : Procfs) (pid : Pid) : String := Path.join fs.root (toString pid)

def pidPath (fs : Procfs) (pid : Pid) (name : String) : String := Path.join (fs.pidDir pid) name

def readText (path : String) : Query Text := Query.onPath "read" path (Ask.readText path)

def read (fs : Procfs) (relative : String) : Query Text := readText (fs.path relative)

def readPid (fs : Procfs) (pid : Pid) (name : String) : Query Text := readText (fs.pidPath pid name)

def readPidBytes (fs : Procfs) (pid : Pid) (name : String) : Query Bytes :=
  Query.onPath "read" (fs.pidPath pid name) (Ask.file (.read (fs.pidPath pid name)))

def readPidLink (fs : Procfs) (pid : Pid) (name : String) : Query Bytes :=
  Query.onPath "readlink" (fs.pidPath pid name) (Ask.file (.readLink (fs.pidPath pid name)))

def list (path : String) : Query (List String) := Query.onPath "opendir" path (Ask.file (.list path))

def pidOfName? (name : String) : Option Pid := Integer.int32? name.toList

def pids (fs : Procfs) : Query (List Pid) := do
  return ((← list fs.root).filterMap pidOfName?).mergeSort (· ≤ ·)

end Procfs
end HostProbe
