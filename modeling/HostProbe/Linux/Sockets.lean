import HostProbe.Linux.Probe
import HostProbe.Procfs.NetTables

/-! Connections: the kernel's socket tables, joined with the descriptors of processes over the inodes of sockets. -/
namespace HostProbe.Linux

structure SocketHolder where
  inode : Nat
  pid : Pid
  fd : Int
  deriving Repr, DecidableEq, Inhabited

def internetTables : List (String × FamilySet × SocketTypeSet) :=
  [("net/tcp", .inet, .stream), ("net/tcp6", .inet6, .stream), ("net/udp", .inet, .datagram),
    ("net/udp6", .inet6, .datagram)]

/-- Connections of a socket: one for each descriptor that holds it; a socket that nobody visible holds is listed
once, and only system-wide. -/
def connectionsOf (holders : List SocketHolder) (systemWide : Bool) (inode : Nat) (template : Connection) :
    List Connection :=
  match holders.filter fun h => h.inode == inode with
  | [] => if systemWide then [template] else []
  | found => found.map fun h => { template with fd := h.fd, pid := some h.pid }

def internetConnection (family : FamilySet) (kind : SocketTypeSet) (s : Procfs.InetSocket) : Connection where
  fd := -1
  family
  kind
  localEnd := some (.inet s.localEnd)
  remoteEnd := s.remoteEnd.map .inet
  status := s.status
  pid := none

def localConnection (s : Procfs.UnixSocket) : Connection where
  fd := -1
  family := .unix
  kind := s.kind
  localEnd := some (.unix s.path)
  remoteEnd := none
  status := .none
  pid := none

namespace Probe

def socketOfEntry (dir : String) (pid : Pid) (name : String) : Program (Option SocketHolder) := do
  match Integer.int32? name.toList with
  | none => return none
  | some fd =>
    match ← Ask.file (.readLink (Path.join dir name)) with
    | .error _ => return none
    | .ok target => return ((Utf8.decode? target).bind Procfs.socketInode?).map fun inode => { inode, pid, fd }

def socketsOf (p : Probe) (pid : Pid) : Query (List SocketHolder) := do
  let dir := p.procfs.pidPath pid "fd"
  let names ← Procfs.list dir
  let holders ← names.mapM fun name => (socketOfEntry dir pid name : Program _)
  return holders.filterMap id

/-- Holders of sockets in one process or in all; processes that cannot be read hold none. -/
def holders (p : Probe) (pid : Option Pid) : Query (List SocketHolder) := do
  match pid with
  | some pid => p.live.classifyFor pid (p.socketsOf pid)
  | none =>
    let found ← (← p.procfs.pids).mapM fun pid => do return (← (p.socketsOf pid).answer?).getD []
    return found.flatten

def socketTable (p : Probe) (table : String) : Query (Option Text) := do
  match ← (p.procfs.read table).attempt with
  | .ok text => return some text
  | .error (.os call cause) => if cause.kind = .notFound then return none else Query.report (.os call cause)
  | .error error => Query.report error

def internetSockets (p : Probe) (filter : ConnectionFilter) (table : String × FamilySet × SocketTypeSet) :
    Query (List (Nat × Connection)) := do
  let (name, family, kind) := table
  if !filter.selects family kind then return []
  match ← p.socketTable name with
  | none => return []
  | some text =>
    return (← Query.lift (Procfs.parseNetInet text kind)).map fun s => (s.inode, internetConnection family kind s)

def localSockets (p : Probe) (filter : ConnectionFilter) : Query (List (Nat × Connection)) := do
  if !filter.wants .unix .all then return []
  match ← p.socketTable "net/unix" with
  | none => return []
  | some text =>
    let sockets ← Query.lift (Procfs.parseNetUnix text)
    return (sockets.filter fun s => filter.selects .unix s.kind).map fun s => (s.inode, localConnection s)

def connections (p : Probe) (filter : ConnectionFilter) (pid : Option Pid) : Query (List Connection) := do
  let holders ← p.holders pid
  let internet ← internetTables.mapM (p.internetSockets filter)
  let sockets := internet.flatten ++ (← p.localSockets filter)
  return sockets.flatMap fun (inode, template) => connectionsOf holders pid.isNone inode template

end Probe
end HostProbe.Linux
