import HostProbe.Bytes
import HostProbe.Growth
import HostProbe.Program
import HostProbe.Record.System

/-! Mounted file systems. -/
namespace HostProbe.BSD

/-- How a system lists its mounts: the call's name, the size of an entry and the flags it has beside the common
ones. -/
structure MountDialect where
  call : String
  entrySize : Nat
  flags : List (Nat × String)
  deriving Repr, DecidableEq, Inhabited

namespace MountDialect

def freebsd : MountDialect where
  call := "getfsstat"
  entrySize := 2344
  flags := [(0x10, "nfsv4acls"), (0x20, "union"), (0x8000, "user"), (0x100000, "suiddir"), (0x200000, "softdep"),
    (0x400000, "nosymfollow"), (0x2000000, "gjournal"), (0x4000000, "multilabel"), (0x8000000, "acls"),
    (0x10000000, "noatime"), (0x40000000, "noclusterr"), (0x80000000, "noclusterw")]

def openbsd : MountDialect where
  call := "getfsstat"
  entrySize := 568
  flags := [(0x10, "nodev"), (0x800, "wxallowed"), (0x8000, "noatime"), (0x4000000, "softdep")]

def netbsd : MountDialect where
  call := "getvfsstat"
  entrySize := 2256
  flags := [(0x10, "nodev"), (0x20, "union"), (0x8000, "nocoredump"), (0x2000000, "log"), (0x4000000, "noatime"),
    (0x20000000, "symperm"), (0x40000000, "nodevmtime"), (0x80000000, "softdep")]

def macos : MountDialect where
  call := "getfsstat"
  entrySize := 2168
  flags := [(0x10, "nodev"), (0x20, "union"), (0x100000, "dontbrowse"), (0x400000, "automounted"),
    (0x800000, "journaled"), (0x10000000, "noatime")]

def commonFlags : List (Nat × String) :=
  [(0x2, "sync"), (0x4, "noexec"), (0x8, "nosuid"), (0x40, "async"), (0x1000, "local"), (0x2000, "quota"),
    (0x4000, "rootfs")]

def options (dialect : MountDialect) (flags : Nat) : String :=
  let access := if flags &&& 0x1 ≠ 0 then "ro" else "rw"
  ",".intercalate (access :: (commonFlags ++ dialect.flags).filterMap fun (bit, name) =>
    if flags &&& bit ≠ 0 then some name else none)

end MountDialect

/-- Every mount. A full buffer may have been cut silently, so the answer must leave room for another entry. -/
def mounts (policy : BufferPolicy) (dialect : MountDialect) : Query (List Mount) := do
  match ← (Ask.mount .count : Program (Except IoError Int)) with
  | .error cause => Query.report (.os dialect.call cause)
  | .ok count =>
    let size (entries : Nat) : Query Nat := Query.lift (Word.mul entries dialect.entrySize)
    let initial ← size (← Query.lift (Word.add (Word.ofInt 64 count) 1))
    Growth.untilDone policy .standard 1 dialect.call initial fun bytes => do
      let room := bytes / dialect.entrySize
      match ← (Ask.mount (.list room) : Program (Except IoError (List Mount))) with
      | .error cause => Query.report (.os dialect.call cause)
      | .ok mounts =>
        if mounts.length ≥ room then return .tooSmall (some ((mounts.length + 1) * dialect.entrySize))
        return .done mounts

/-- Mounts as partitions; unless all are wanted, only those whose device is a file. -/
def partitions (policy : BufferPolicy) (dialect : MountDialect) (all : Bool) : Query (List Partition) := do
  let found ← (← mounts policy dialect).mapM fun m => do
    let device := Bytes.cString m.device
    let shown ← if all then pure true else if device.isEmpty then pure false
      else (Ask.fileExists device : Program Bool)
    return if !shown then none else some {
      device, mountpoint := Bytes.cString m.directory, fstype := Bytes.cString m.fstype
      opts := dialect.options m.flags : Partition }
  return found.filterMap id

end HostProbe.BSD
