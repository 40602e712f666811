import HostProbe.Call.Kernel
import HostProbe.Host.Files

/-! Recorded answers of a kernel whose processes are teams of threads. -/
namespace HostProbe

structure TeamRecord where
  pid : Pid
  summary : TeamSummary
  threads : List TeamThread := []
  areas : List TeamArea := []
  images : List TeamImage := []
  /-- Times of the team and of its children. -/
  usage : Except TeamStatus (Int × Int) := .ok (0, 0)
  childrenUsage : Except TeamStatus (Int × Int) := .ok (0, 0)
  /-- A team that is listed but cannot be asked for. -/
  gone : Bool := false
  /-- A team whose long record cannot be had. -/
  shortOnly : Bool := false

structure VolumeRecord where
  root : Option String := none
  flags : Nat := 0
  device : Bytes := []
  fstype : Bytes := []
  deriving Inhabited

structure TeamsRecord where
  summary : Except TeamStatus SystemSummary := .ok {}
  processors : Except TeamStatus (List ProcessorSummary) := .ok []
  uptime : Int := 0
  teams : List TeamRecord := []
  volumes : List VolumeRecord := []

namespace TeamsRecord

def noTeam : TeamStatus := -2147479295

def failed : TeamStatus := -1

def team? (record : TeamsRecord) (pid : Pid) : Option TeamRecord := record.teams.find? fun t => t.pid == pid

def root? (files : FileTree) (path : String) : Option (Nat × Nat) :=
  match files.answer (.info path) with
  | .ok info => some (info.device, info.inode)
  | .error _ => none

def answer (record : TeamsRecord) (files : FileTree) : (c : TeamCall) → c.Answer
  | .summary => record.summary
  | .processors count => record.processors.map fun ps => (ps ++ List.replicate (count - ps.length) {}).take count
  | .uptime => record.uptime
  | .teams => record.teams.map (·.pid)
  | .known pid => (record.team? pid).any fun t => !t.gone
  | .team pid =>
    match record.team? pid with
    | none => .error noTeam
    | some t => if t.gone then .error noTeam else if t.shortOnly then .error failed else .ok t.summary
  | .usage pid children =>
    match record.team? pid with
    | none => .error noTeam
    | some t => if children then t.childrenUsage else t.usage
  | .threads pid => (record.team? pid).elim [] TeamRecord.threads
  | .areas pid => (record.team? pid).elim [] TeamRecord.areas
  | .images pid => (record.team? pid).elim [] TeamRecord.images
  | .volumes => record.volumes.map fun v =>
    { root := v.root.bind (root? files), flags := v.flags, device := v.device, fstype := v.fstype }

end TeamsRecord
end HostProbe
