import HostProbe.Error

/-! Calls that may hang: they run on a worker, and are given up when they take too long or the worker dies. -/
namespace HostProbe

inductive Worker (α : Type)
  | answered (value : α)
  | died
  | late
  deriving Repr, Inhabited

namespace Worker

/-- A worker that misses its deadline is abandoned, and one that dies reports no cause. -/
def answer {α : Type} (call : String) : Worker α → Outcome α
  | answered value => .ok value
  | died => Outcome.report (.os call (.custom .other "worker thread panicked"))
  | late => Outcome.report (.os call (.bare .timedOut))

end Worker

/-- Runs a query on a worker, so that its abort is a failure of the call. -/
def onWorker {m : Type → Type} [Monad m] {α : Type} (call : String) (query : ExceptT Fault m α) :
    ExceptT Fault m α :=
  ExceptT.mk do
    match ← query.run with
    | .error .abort => return Worker.answer call .died
    | result => return result

end HostProbe
