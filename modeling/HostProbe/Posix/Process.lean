import HostProbe.Liveness
import HostProbe.Program
import HostProbe.Record.Process

/-! Signals and priorities of processes. -/
namespace HostProbe.Posix

structure SignalNumbers where
  stop : Int
  resume : Int
  user1 : Int
  user2 : Int
  /-- Number of the error of a signal to a process that there is not. -/
  noProcess : ErrorNumber := ErrorNumber.noProcess
  deriving Repr, DecidableEq

namespace SignalNumbers

def linux : SignalNumbers where
  stop := 19
  resume := 18
  user1 := 10
  user2 := 12

def bsd : SignalNumbers where
  stop := 17
  resume := 19
  user1 := 30
  user2 := 31

def haiku : SignalNumbers where
  stop := 10
  resume := 12
  user1 := 18
  user2 := 19
  noProcess := -2147454963

def number (n : SignalNumbers) : Signal → Int
  | .terminate => 15
  | .kill => 9
  | .interrupt => 2
  | .hangup => 1
  | .stop => n.stop
  | .resume => n.resume
  | .user1 => n.user1
  | .user2 => n.user2

end SignalNumbers

/-- Whether a signal could be sent; a refusal shows that there is a process. -/
def pidExists (pid : Pid) : Program Bool := do
  if pid < 0 then return false
  if pid = 0 then return true
  match ← Ask.posix (.kill pid 0) with
  | .ok () => return true
  | .error cause => return cause = .number ErrorNumber.notPermitted

/-- Sends a signal to one process. Zero would reach the caller's whole group, so it is refused. -/
def sendSignal (numbers : SignalNumbers) (live : Liveness Program) (pid : Pid) (signal : Signal) : Query Unit := do
  Query.lift (checkPid pid)
  if pid = 0 then Query.report (.permissionDenied pid "kill")
  match ← (Ask.posix (.kill pid (numbers.number signal)) : Program (Except IoError Unit)) with
  | .ok () => return ()
  | .error cause =>
    if cause = .number numbers.noProcess then Query.report (.notFound pid)
    live.fail pid "kill" cause

/-- Selects processes by their own identifier. -/
def byProcess : Int := 0

def getPriority (live : Liveness Program) (pid : Pid) : Query Int := do
  Query.lift (checkPid pid)
  match ← (Ask.posix (.getPriority byProcess pid) : Program (Except IoError Int)) with
  | .ok priority => return priority
  | .error cause => live.fail pid "getpriority" cause

def setPriority (live : Liveness Program) (pid : Pid) (value : Int) : Query Unit := do
  Query.lift (checkPid pid)
  match ← (Ask.posix (.setPriority byProcess pid value) : Program (Except IoError Unit)) with
  | .ok () => return ()
  | .error cause => live.fail pid "setpriority" cause

end HostProbe.Posix
