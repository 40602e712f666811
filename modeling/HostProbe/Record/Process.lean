import HostProbe.Error
import HostProbe.Json

/-! What is reported about one process, and what may be asked to happen to it. -/
namespace HostProbe

structure ProcessCpuTimes where
  user : Float := 0.0
  system : Float := 0.0
  childrenUser : Option Float := none
  childrenSystem : Option Float := none
  deriving Inhabited

def ProcessCpuTimes.toJson (t : ProcessCpuTimes) : Json :=
  .record [.field "user" (.real t.user), .field "system" (.real t.system),
    .field? "children_user" .real t.childrenUser, .field? "children_system" .real t.childrenSystem]

structure ProcessIds where
  real : Nat := 0
  effective : Nat := 0
  saved : Nat := 0
  deriving Repr, DecidableEq, Inhabited

def ProcessIds.toJson (i : ProcessIds) : Json :=
  .record [.field "real" (.nat i.real), .field "effective" (.nat i.effective), .field "saved" (.nat i.saved)]

inductive ProcessStatus
  | running
  | sleeping
  | diskSleep
  | stopped
  | tracingStop
  | zombie
  | dead
  | wakeKill
  | waking
  | idle
  | locked
  | waiting
  | suspended
  | parked
  deriving Repr, DecidableEq, Inhabited

namespace ProcessStatus

def all : List ProcessStatus :=
  [running, sleeping, diskSleep, stopped, tracingStop, zombie, dead, wakeKill, waking, idle, locked, waiting,
    suspended, parked]

def name : ProcessStatus → String
  | running => "running"
  | sleeping => "sleeping"
  | diskSleep => "disk-sleep"
  | stopped => "stopped"
  | tracingStop => "tracing-stop"
  | zombie => "zombie"
  | dead => "dead"
  | wakeKill => "wake-kill"
  | waking => "waking"
  | idle => "idle"
  | locked => "locked"
  | waiting => "waiting"
  | suspended => "suspended"
  | parked => "parked"

def toJson (s : ProcessStatus) : Json := .text s.name

/-- State of the letter that process records give it; unknown letters count as sleeping. -/
def ofLetter (state : Char) : ProcessStatus :=
  match state with
  | 'R' => running
  | 'S' => sleeping
  | 'D' => diskSleep
  | 'T' => stopped
  | 't' => tracingStop
  | 'Z' => zombie
  | 'X' | 'x' => dead
  | 'K' => wakeKill
  | 'W' => waking
  | 'I' => idle
  | 'P' => parked
  | _ => sleeping

end ProcessStatus

structure ThreadTimes where
  id : Nat
  user : Float
  system : Float
  deriving Inhabited

def ThreadTimes.toJson (t : ThreadTimes) : Json :=
  .record [.field "id" (.nat t.id), .field "user" (.real t.user), .field "system" (.real t.system)]

structure IoCounters where
  readCount : Nat := 0
  writeCount : Nat := 0
  readBytes : Nat := 0
  writeBytes : Nat := 0
  deriving Repr, DecidableEq, Inhabited

def IoCounters.toJson (c : IoCounters) : Json :=
  .record [.field "read_count" (.nat c.readCount), .field "write_count" (.nat c.writeCount),
    .field "read_bytes" (.nat c.readBytes), .field "write_bytes" (.nat c.writeBytes)]

structure ContextSwitches where
  voluntary : Nat := 0
  involuntary : Nat := 0
  deriving Repr, DecidableEq, Inhabited

def ContextSwitches.toJson (c : ContextSwitches) : Json :=
  .record [.field "voluntary" (.nat c.voluntary), .field "involuntary" (.nat c.involuntary)]

structure OpenFile where
  path : String
  fd : Int
  deriving Repr, DecidableEq, Inhabited

def OpenFile.toJson (f : OpenFile) : Json := .record [.field "path" (.text f.path), .field "fd" (.int f.fd)]

/-- Bounds on a resource; an absent bound is infinite. -/
structure ResourceLimit where
  soft : Option Nat := none
  hard : Option Nat := none
  deriving Repr, DecidableEq, Inhabited

def ResourceLimit.toJson (l : ResourceLimit) : Json :=
  .record [.field "soft" (.option .nat l.soft), .field "hard" (.option .nat l.hard)]

inductive Signal
  | terminate
  | kill
  | interrupt
  | hangup
  | stop
  | resume
  | user1
  | user2
  deriving Repr, DecidableEq, Inhabited

def Signal.name : Signal → String
  | terminate => "Terminate"
  | kill => "Kill"
  | interrupt => "Interrupt"
  | hangup => "Hangup"
  | stop => "Stop"
  | resume => "Continue"
  | user1 => "User1"
  | user2 => "User2"

inductive Resource
  | addressSpace
  | coreFileSize
  | cpuTime
  | dataSize
  | fileSize
  | locks
  | lockedMemory
  | messageQueue
  | nice
  | openFiles
  | processes
  | residentSet
  | realtimePriority
  | realtimeTime
  | pendingSignals
  | stackSize
  deriving Repr, DecidableEq, Inhabited

def Resource.title : Resource → String
  | .addressSpace => "AddressSpace"
  | .coreFileSize => "CoreFileSize"
  | .cpuTime => "CpuTime"
  | .dataSize => "DataSize"
  | .fileSize => "FileSize"
  | .locks => "Locks"
  | .lockedMemory => "LockedMemory"
  | .messageQueue => "MessageQueue"
  | .nice => "Nice"
  | .openFiles => "OpenFiles"
  | .processes => "Processes"
  | .residentSet => "ResidentSet"
  | .realtimePriority => "RealtimePriority"
  | .realtimeTime => "RealtimeTime"
  | .pendingSignals => "PendingSignals"
  | .stackSize => "StackSize"

def Resource.all : List Resource :=
  [.addressSpace, .coreFileSize, .cpuTime, .dataSize, .fileSize, .locks, .lockedMemory, .messageQueue, .nice,
    .openFiles, .processes, .residentSet, .realtimePriority, .realtimeTime, .pendingSignals, .stackSize]

end HostProbe
