import HostProbe.Error
import HostProbe.Json
import HostProbe.Record.System

/-! Memory footprints as the systems give them: what is resident, and shares of it where they are known. -/
namespace HostProbe

structure Footprint where
  rss : Nat := 0
  pss : Option Nat := none
  uss : Option Nat := none
  swap : Option Nat := none
  deriving Repr, DecidableEq, Inhabited

abbrev FootprintOutcome := Except (Failure IoError)

namespace Footprint

def memory (f : Footprint) : Outcome MemoryFootprint :=
  match f.uss with
  | none => Outcome.report (.unsupported "proc_memory_full_info without smaps")
  | some uss => .ok { rss := f.rss, pss := f.pss, uss, swap := f.swap }

def toJson (f : Footprint) : Json :=
  .object [("rss", .nat f.rss), ("pss", .option .nat f.pss), ("uss", .option .nat f.uss),
    ("swap", .option .nat f.swap)]

inductive Target
  | current
  | pid (pid : Pid)
  deriving Repr, DecidableEq, Inhabited

def unsupported : FootprintOutcome Footprint :=
  .error (.report (.custom .unsupported "memory footprint is not supported on this platform"))

end Footprint
end HostProbe
