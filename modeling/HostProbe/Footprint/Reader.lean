import HostProbe.Footprint.Regions
import HostProbe.Footprint.Smaps
import HostProbe.Footprint.WorkingSet
import HostProbe.Kernel

/-! Readers of footprints on every system. -/
namespace HostProbe.Footprint

inductive Reader
  | files (querier : Querier)
  | regions (querier : RegionQuerier)
  | workingSet (querier : WorkingSet)
  /-- The reader of a system that has no footprints. -/
  | none
  deriving Repr, DecidableEq, Inhabited

namespace Reader

def new (kernel : Kernel) (fs : Procfs) (target : Target) : Program Reader :=
  match kernel with
  | .macos => do return regions (← RegionQuerier.new target)
  | .windows => do return workingSet (← WorkingSet.new target)
  | .freebsd => return none
  | _ => do return files (← Querier.new fs target)

def footprint : Reader → Program (FootprintOutcome Footprint × Reader)
  | files querier => do
    let (outcome, querier) ← querier.footprint
    return (outcome, files querier)
  | regions querier => do return (← querier.footprint.run, regions querier)
  | workingSet querier => do return (← querier.footprint.run, workingSet querier)
  | none => return (unsupported, none)

/-- An answer, or nothing after an error; an abort stays one. -/
def orNone {α : Type} : FootprintOutcome α → FootprintOutcome (Option α)
  | .ok a => .ok (some a)
  | .error (.report _) => .ok Option.none
  | .error .abort => .error .abort

def resident : Reader → Program (FootprintOutcome (Option Nat) × Reader)
  | files querier => do
    let (outcome, querier) ← querier.footprint
    return ((orNone outcome).map fun f => f.map Footprint.rss, files querier)
  | regions querier => do return (orNone (← querier.resident.run), regions querier)
  | workingSet querier => do return (orNone (← querier.resident.run), workingSet querier)
  | none => return (.ok Option.none, none)

end Reader
end HostProbe.Footprint
