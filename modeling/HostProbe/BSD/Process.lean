import HostProbe.BSD.Sysctl
import HostProbe.Context
import HostProbe.Liveness
import HostProbe.Posix.Process
import HostProbe.Posix.System
import HostProbe.Record.System
import HostProbe.Record.Process

/-! What the kernel's record of a process tells. -/
namespace HostProbe.BSD

structure ProcessInfo where
  pid : Pid
  ppid : Pid
  status : ProcessStatus
  name : String
  users : ProcessIds
  groups : ProcessIds
  /-- Device number of the terminal, if there is one. -/
  terminal : Option Nat
  createTime : Float
  times : ProcessCpuTimes
  memory : ProcessMemory
  /-- Number of threads, where the record tells it. -/
  threads : Option Nat
  switches : ContextSwitches
  io : IoCounters
  deriving Inhabited

structure Probe where
  context : Context := {}
  clockTicks : Float := 100.0
  pageSize : Nat := 4096
  deriving Inhabited

def Probe.new (context : Context) : Program Probe := do
  let ticks ← Posix.positiveSetting .clockTicks 100
  let pageSize ← Posix.positiveSetting .pageSize 4096
  return { context, clockTicks := Real.ofNat ticks, pageSize }

/-- Bytes of so many pages; a negative count is none. -/
def Probe.bytesOfPages (p : Probe) (pages : Int) : Outcome Nat := Word.mul pages.toNat p.pageSize

/-- A record about one process; the kernel answers with nothing when it does not know the process. -/
def processRecord {α : Type} (size : Nat) (read : Bytes → Outcome α) (mib : Mib) (pid : Pid) (call : String) :
    Query α := do
  let bytes ← Sysctl.value mib call size
  if bytes.isEmpty then Query.report (.notFound pid)
  Query.lift (read bytes)

/-- Existence shows in signals, the state of a zombie in the process's record. -/
def livenessBy (info : Pid → Query ProcessInfo) : Liveness Program where
  pidExists := Posix.pidExists
  isZombie pid := do
    match ← (info pid).run with
    | .ok info => return info.status == .zombie
    | .error _ => return false

end HostProbe.BSD
