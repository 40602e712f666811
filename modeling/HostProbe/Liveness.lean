import HostProbe.Error

/-! Why a query about one process failed, once it is known whether the process exists and whether it is a zombie. -/
namespace HostProbe

/-- How to find out whether a process exists and whether it is a zombie. -/
structure Liveness (m : Type → Type) where
  pidExists : Pid → m Bool
  isZombie : Pid → m Bool

/-- Negative identifiers belong to no process. -/
def checkPid (pid : Pid) : Outcome Unit := if pid < 0 then Outcome.report (.notFound pid) else .ok ()

namespace Liveness

variable {m : Type → Type} [Monad m]

/-- The error of a failed call about a process: the process is gone, is a zombie, is off limits, or the call's own
cause remains. -/
def classify (live : Liveness m) (pid : Pid) (call : String) (cause : IoError) : m Error := do
  if pid < 0 then return .notFound pid
  if !(← live.pidExists pid) then return .notFound pid
  if ← live.isZombie pid then return .zombieProcess pid
  if cause.kind = .permissionDenied then return .permissionDenied pid call
  return .processOs pid call cause

/-- Turns errors of calls and unreadable records into what they say about the process. -/
def reclassify (live : Liveness m) (pid : Pid) (error : Error) : m Error := do
  match error with
  | .os call cause | .processOs _ call cause => live.classify pid call cause
  | .parse .. =>
    if !(← live.pidExists pid) then return .notFound pid
    if ← live.isZombie pid then return .zombieProcess pid
    return error
  | _ => return error

def fail {α : Type} (live : Liveness m) (pid : Pid) (call : String) (cause : IoError) : ExceptT Fault m α := do
  throw (.report (← (live.classify pid call cause : m Error)))

/-- Reclassifies the error of a query about a process; answers and aborts stay. -/
def classifyFor {α : Type} (live : Liveness m) (pid : Pid) (query : ExceptT Fault m α) : ExceptT Fault m α :=
  ExceptT.mk do
    match ← query.run with
    | .error (.report error) => return .error (.report (← live.reclassify pid error))
    | result => return result

end Liveness
end HostProbe
