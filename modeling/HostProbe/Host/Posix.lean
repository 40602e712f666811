import HostProbe.Call.Posix
import HostProbe.Json

/-! Recorded answers to the questions that systems of the Unix family share. What has no record fails as not
implemented, or answers nothing; commands and scheduling questions that have one are noted as they are made. -/
namespace HostProbe

structure SignalRecord where
  alive : List Int := []
  denied : List Int := []
  /-- Number with which every signal but zero fails. -/
  failure : Option ErrorNumber := none
  deriving Repr, Inhabited

structure LinkRecord where
  mtu : Except ErrorNumber Int := .ok 0
  settings : Except ErrorNumber LinkSettings := .ok {}
  media : Except ErrorNumber Nat := .ok 0

structure PosixRecord where
  /-- A machine whose only processes are the given ones; without one, unrecorded questions are not implemented. -/
  machine : Option (List Pid) := none
  signals : Option SignalRecord := none
  priority : Option (Except ErrorNumber Int) := none
  setPriority : Option (Except ErrorNumber Unit) := none
  affinity : Option (Except ErrorNumber (List Nat)) := none
  setAffinity : Option (Except ErrorNumber Unit) := none
  limits : Option (Except ErrorNumber (Nat × Nat)) := none
  volume : Option (Except ErrorNumber VolumeBlocks) := none
  clockTicks : Int := 100
  pageSize : Int := 4096
  processors : Int := 1
  now : Int × Nat := (0, 0)
  interfaces : Option (Except ErrorNumber (List InterfaceEntry)) := none
  links : Option (List (String × LinkRecord)) := none
  /-- Number with which a link that has no record fails. -/
  missingLink : ErrorNumber := 19
  controlSocket : Except ErrorNumber Unit := .ok ()
  logins : List LoginEntry := []
  loadAverages : Option (Except ErrorNumber (List Float)) := none
  devices : List (Nat × String) := []

def recorded {α : Type} (record : Option (Except ErrorNumber α)) : Except IoError α :=
  match record with
  | none => .error (.number ErrorNumber.notImplemented)
  | some (.ok a) => .ok a
  | some (.error n) => .error (.number n)

namespace PosixRecord

def signal (record : PosixRecord) (pid : Pid) (number : Int) : Except IoError Unit :=
  match record.signals with
  | none => if pid = 0 || pid = 1 then .ok () else .error (.number ErrorNumber.noProcess)
  | some s =>
    match (if number = 0 then none else s.failure) with
    | some n => .error (.number n)
    | none =>
      if s.alive.contains pid then .ok ()
      else if s.denied.contains pid then .error (.number ErrorNumber.notPermitted)
      else .error (.number ErrorNumber.noProcess)

/-- A recorded answer about a process, or the failure for one that the machine does not run. -/
def ofProcess {α : Type} (record : PosixRecord) (pid : Pid) (answer : Option (Except ErrorNumber α)) :
    Except IoError α :=
  match answer, record.machine with
  | none, some pids =>
    .error (.number (if pids.contains pid then ErrorNumber.notImplemented else ErrorNumber.noProcess))
  | answer, _ => recorded answer

def link (record : PosixRecord) (name : String) : Except ErrorNumber LinkRecord :=
  match record.links with
  | none => .error ErrorNumber.notImplemented
  | some links =>
    match links.find? fun l => l.1 == name with
    | some (_, l) => .ok l
    | none => .error record.missingLink

def numbered {α : Type} : Except ErrorNumber α → Except IoError α
  | .ok a => .ok a
  | .error n => .error (.number n)

def answer (record : PosixRecord) : (c : PosixCall) → c.Answer
  | .kill pid number => record.signal pid number
  | .getPriority _ pid => record.ofProcess pid record.priority
  | .setPriority _ pid _ => record.ofProcess pid record.setPriority
  | .getAffinity pid size => do
    let words ← record.ofProcess pid record.affinity
    if size < words.length * 8 then .error (.number ErrorNumber.invalidArgument) else return words
  | .setAffinity pid _ => record.ofProcess pid record.setAffinity
  | .getCpuSet _ _ pid size => do
    let words ← record.ofProcess pid record.affinity
    if size < words.length * 8 then .error (.number ErrorNumber.invalidArgument) else return words
  | .setCpuSet _ _ pid _ => record.ofProcess pid record.setAffinity
  | .resourceLimit pid _ => record.ofProcess pid record.limits
  | .volume _ => recorded record.volume
  | .setting .clockTicks => record.clockTicks
  | .setting .pageSize => record.pageSize
  | .setting .processors => record.processors
  | .now => record.now
  | .interfaces => recorded record.interfaces
  | .controlSocket => numbered record.controlSocket
  | .linkMtu name => numbered do (← record.link name).mtu
  | .linkSettings name => numbered do (← record.link name).settings
  | .linkMedia name => numbered do (← record.link name).media
  | .logins => record.logins
  | .loadAverages => recorded record.loadAverages
  | .deviceName number => (record.devices.find? fun d => d.1 == number).map (·.2)
  | .lastError => 0

def note (record : PosixRecord) (c : PosixCall) : Option Json :=
  let line (name : String) (rest : List Json) : Option Json := some (.list (.text name :: rest))
  match c with
  | .kill pid number =>
    if number ≠ 0 && record.signals.isSome then line "kill" [.int pid, .int number] else none
  | .getPriority which pid => if record.priority.isSome then line "getpriority" [.int which, .int pid] else none
  | .setPriority which pid value =>
    if record.setPriority.isSome then line "setpriority" [.int which, .int pid, .int value] else none
  | .getAffinity pid size => if record.affinity.isSome then line "getaffinity" [.int pid, .nat size] else none
  | .setAffinity pid words =>
    if record.setAffinity.isSome then line "setaffinity" [.int pid, .list (words.map .nat)] else none
  | .getCpuSet level which pid size =>
    if record.affinity.isSome then line "cpuset_getaffinity" [.int level, .int which, .int pid, .nat size] else none
  | .setCpuSet level which pid words =>
    if record.setAffinity.isSome then
      line "cpuset_setaffinity" [.int level, .int which, .int pid, .list (words.map .nat)]
    else none
  | .resourceLimit pid resource => if record.limits.isSome then line "prlimit" [.int pid, .nat resource] else none
  | .volume path => if record.volume.isSome then line "statvfs" [.text path] else none
  | _ => none

end PosixRecord
end HostProbe
