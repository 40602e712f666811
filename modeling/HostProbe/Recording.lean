import HostProbe.Host.Files
import HostProbe.Host.Mach
import HostProbe.Host.Sysctl
import HostProbe.Host.Team
import HostProbe.Kernel
import HostProbe.Recording.Members
import HostProbe.Recording.Posix
import HostProbe.Recording.Windows
import HostProbe.Word

/-! Hosts from their recordings. -/
namespace HostProbe.Recording

/-! ### Files -/

def workingName : String := "@ROOT@"

def expand (path : String) : String := path.replace workingName ("/" ++ workingName)

def collapse (s : String) : String := s.replace ("/" ++ workingName) workingName

def machineFiles : List (Location × FileNode) :=
  [(["dev"], .directory), (["dev", "null"], .device 259), (["dev", "zero"], .device 261),
    (["dev", "full"], .device 263), (["dev", "tty"], .device 1280), (["etc"], .directory),
    (["etc", "passwd"], .file [] false), (["usr"], .directory), (["usr", "bin"], .directory),
    (["usr", "sbin"], .directory), (["root"], .directory), (["home"], .directory), (["tmp"], .directory),
    ([workingName], .directory)]

def fileNode : Json → FileNode
  | .text contents => .file (textBytes contents) false
  | j =>
    if j.holds "dir" then .directory
    else
      match j.get? "link", j.get? "link_hex" with
      | some target, _ => .link (textBytes (expand (target.text?.getD "")))
      | none, some digits => .link (hexBytes (digits.text?.getD ""))
      | none, none => .file (bytesOf j) (j.holds "exec")

def putFiles (tree : FileTree) (files : Json) : FileTree :=
  files.members.foldl (fun tree (path, file) => tree.put (tree.locate (expand path)) (fileNode file)) tree

def eraseFiles (tree : FileTree) (paths : List String) : FileTree :=
  paths.foldl (fun tree path => tree.erase (tree.locate (expand path))) tree

def fileTree (files kernel : Json) : FileTree :=
  putFiles {
    nodes := machineFiles, working := [workingName]
    denied := (kernel.get "deny").members.filterMap fun (path, n) => n.int?.map fun n => (path, n)
    redirected := (kernel.get "redirect").members.filterMap fun (path, t) => t.text?.map fun t => (path, t) } files

/-! ### Tables, mounts and swap -/

def numberFields : List (String × Nat) := [("i32", 4), ("u32", 4), ("i64", 8), ("u64", 8)]

def payload (j : Json) : Bytes :=
  let numbers := numberFields.map fun (key, size) => ((j.intsAt key).map fun n => Bytes.ofNat size (Word.ofInt (8 * size) n)).flatten
  bytesOf j ++ numbers.flatten ++ List.replicate (j.natAt "zeros") 0

/-- A table whose pointers, told relative to its beginning, lead into the buffer that it is read into. -/
def table (j : Json) : TableRecord where
  bytes := TableRecord.relocate TableRecord.bufferAddress (j.natsAt "fixups") (payload j)
  estimate := (j.get "estimate").nat?
  failure := (j.get "errno").int?
  readFailure := (j.get "read_errno").int?
  nameFailure := (j.get "mib_errno").int?

def sysctlRecord (j : Json) : SysctlRecord := j.members.map fun (key, entry) => (key, table entry)

structure MountFields where
  device : Nat := 1024
  directory : Nat := 1024
  fstype : Nat := 16
  flags : Nat := 4
  deriving Repr, DecidableEq, Inhabited

def mountFields : Kernel → MountFields
  | .freebsd => { flags := 8 }
  | .openbsd => { device := 90, directory := 90 }
  | .netbsd => { fstype := 32, flags := 8 }
  | _ => {}

def mount (fields : MountFields) (j : Json) : Mount where
  device := (textBytes (j.textAt "from")).take fields.device
  directory := (textBytes (j.textAt "on")).take fields.directory
  fstype := (textBytes (j.textAt "type")).take fields.fstype
  flags := Word.ofInt (8 * fields.flags) (j.intAt "flags")

def mountRecord (system : Kernel) : Option Json → MountRecord
  | none => { failure := some ErrorNumber.notImplemented }
  | some (.list mounts) => { mounts := mounts.map (mount (mountFields system)) }
  | some j => {
    mounts := (j.itemsAt "list").map (mount (mountFields system)), count := (j.get "count").int?
    failure := (j.get "errno").int?, readFailure := (j.get "read_errno").int? }

def swapRecord : Option Json → SwapRecord
  | none => {}
  | some j => {
    pages :=
      match (j.get "error").text? with
      | some text => .error text
      | none =>
        if j.holds "fail" then .ok none
        else .ok (some { total := Word.ofInt 32 (j.intAt "total"), used := Word.ofInt 32 (j.intAt "used") }) }

/-! ### Ports -/

def block (j : Json) : BlockRecord where
  bytes := payload j
  estimate := (j.get "estimate").nat?
  failure := (j.get "errno").int?
  readFailure := (j.get "read_errno").int?

/-- What a recording calls a fact about a process: a number, perhaps with the number of a thread behind it. -/
def processFacet? (key : String) : Option ProcessFacet :=
  match key.splitOn "." with
  | ["1"] => some .descriptors
  | ["3"] => some .identity
  | ["4"] => some .task
  | ["5"] => some (.thread 0)
  | ["5", id] => (Integer.word? id.toList).map .thread
  | ["6"] => some .threads
  | ["9"] => some .directories
  | _ => none

def descriptorFacet? (key : String) : Option (Int × DescriptorFacet) :=
  match key.splitOn "." with
  | [fd, "2"] => (Integer.int32? fd.toList).map (·, .file)
  | [fd, "3"] => (Integer.int32? fd.toList).map (·, .socket)
  | _ => none

def memoryRegion (j : Json) : MemoryRegion :=
  let number (index bits : Nat) : Nat := Word.ofInt bits ((j.item index).int?.getD 0)
  { address := number 0 64, size := number 1 64, references := number 2 32, privatePages := number 3 32
    sharedPages := number 4 32, shareMode := number 5 8 }

def regionRecord (j : Json) : RegionRecord where
  regions := (j.itemsAt "regions").map memoryRegion
  pastLast := j.intAt "regions_kr" 1

def taskRecord (j : Json) : TaskRecord where
  facets := (j.get "info").members.filterMap fun (key, b) => (processFacet? key).map (·, block b)
  descriptors := (j.get "fds").members.filterMap fun (key, b) => (descriptorFacet? key).map (·, block b)
  path := (j.get? "path").map block
  name := (j.get? "name").map block
  usage := (j.get? "rusage").map block
  port := j.intAt "task_for_pid"
  memory := regionRecord j

def portAnswer {α : Type} (read : Json → α) (j : Json) : Except KernelResult α :=
  match j, (j.get "kr").int? with
  | .null, _ => .error 5
  | _, some result => .error result
  | _, none => .ok (read j)

def timebase (j : Json) : Except KernelResult (Nat × Nat) :=
  match (j.item 2).int?.getD 0 with
  | 0 => .ok (((j.item 0).nat?.getD 1), ((j.item 1).nat?.getD 1))
  | result => .error result

def machRecord (j : Json) : MachRecord where
  tasks := (j.get "pids").members.filterMap fun (key, task) =>
    (Integer.int32? key.toList).map (·, taskRecord task)
  load := portAnswer payload (j.get "cpu")
  memory := portAnswer payload (j.get "vm")
  processors := portAnswer (fun j => (j.natAt "count", (j.intsAt "ticks").map (Word.ofInt 32))) (j.get "processors")
  timebase := timebase (j.get "timebase")
  resident := (portAnswer (fun j => j.natAt "resident") (j.get "task")).mapError fun _ => ErrorNumber.invalidArgument
  regions := regionRecord j

/-! ### Teams -/

def withStatus {α : Type} (read : Json → α) (j : Json) : Except TeamStatus α :=
  match (j.get "status").int? with
  | some status => .error status
  | none => .ok (read j)

def wordAt (bits : Nat) (j : Json) (key : String) : Nat := Word.ofInt bits (j.intAt key)

def systemSummary (j : Json) : SystemSummary where
  bootTime := j.intAt "boot_time"
  processors := wordAt 32 j "cpu_count"
  maxPages := wordAt 64 j "max_pages"
  usedPages := wordAt 64 j "used_pages"
  cachedPages := wordAt 64 j "cached_pages"
  maxSwapPages := wordAt 64 j "max_swap_pages"
  freeSwapPages := wordAt 64 j "free_swap_pages"

def processorSummary (j : Json) : ProcessorSummary where
  activeTime := j.intAt "active_time"
  enabled := j.holds "enabled"
  frequency := wordAt 64 j "frequency"

def teamTimes : Json → Except TeamStatus (Int × Int)
  | .int status => .error status
  | .null => .error TeamsRecord.noTeam
  | j => .ok ((j.item 0).int?.getD 0, (j.item 1).int?.getD 0)

def teamRecord (j : Json) : TeamRecord where
  pid := j.intAt "team"
  summary := {
    threads := j.intAt "thread_count", user := wordAt 32 j "uid", group := wordAt 32 j "gid"
    realUser := wordAt 32 j "real_uid", realGroup := wordAt 32 j "real_gid", parent := j.intAt "parent"
    startTime := j.intAt "start_time" }
  threads := (j.itemsAt "threads").map fun t =>
    let number (index : Nat) : Int := (t.item index).int?.getD 0
    { id := number 0, state := number 1, userTime := number 2, kernelTime := number 3 }
  areas := (j.itemsAt "areas").map fun a =>
    { size := Word.ofInt 64 ((a.item 0).int?.getD 0), resident := Word.ofInt 32 ((a.item 1).int?.getD 0) }
  images := (j.itemsAt "images").map fun i =>
    { type := (i.item 0).int?.getD 0, path := textBytes ((i.item 1).text?.getD "") }
  usage := teamTimes ((j.get "usage").get "0")
  childrenUsage := teamTimes ((j.get "usage").get "-1")
  gone := j.holds "gone"
  shortOnly := j.holds "short_only"

def volumeRecord? : Json → Option VolumeRecord
  | .int _ => none
  | j => some {
    root := (j.get "at").text?.map expand, flags := wordAt 32 j "flags"
    device := (textBytes (j.textAt "device")).take 128, fstype := (textBytes (j.textAt "fs")).take 32 }

def teamsRecord (j : Json) : TeamsRecord where
  summary := withStatus systemSummary (j.get "system")
  processors := withStatus (fun j => j.items.map processorSummary) (j.get "cpus")
  uptime := j.intAt "uptime"
  teams := (j.itemsAt "teams").map teamRecord
  volumes := (j.itemsAt "volumes").filterMap volumeRecord?

end HostProbe.Recording

namespace HostProbe

/-- The host of a recording with its files, its kernel's answers and its kernel statistics. On a machine, what the
kernel has no record of is answered as a small one would. -/
def Host.ofRecording (recording : Json) (system : Kernel) : Host :=
  let kernel := recording.get "kernel"
  { files := Recording.fileTree (recording.get "files") kernel
    posix := Recording.posixRecord kernel system
    kstats := Recording.kstatChain (recording.get "kstats")
    sysctl := Recording.sysctlRecord (kernel.get "sysctl")
    mounts := Recording.mountRecord system (kernel.get? "mounts")
    swap := Recording.swapRecord (kernel.get? "kvm")
    mach := Recording.machRecord (kernel.get "mac")
    teams := Recording.teamsRecord (kernel.get "haiku")
    windows := Recording.windowsRecord (kernel.get "win") }

end HostProbe
