import HostProbe.Procfs.Fields
import HostProbe.Record.System
import HostProbe.Table

/-! Memory of the whole system, from the amounts in `meminfo` and the counts in `vmstat`. -/
namespace HostProbe.Procfs

def parseMeminfo (text : Text) : Outcome (Table Nat) := do
  return Table.ofList ((← keyedAmounts text).map fun (k, v) => (String.ofList k, v))

def parseVmstat (text : Text) : Table Nat :=
  Table.ofList (text.lines.filterMap fun line => do
    let (key, value) ← line.splitOnce ' '
    let n ← Integer.word? value.trim
    return (String.ofList key, n))

/-- Memory in use and available; kernels before the field `MemAvailable` leave it to be estimated. -/
def virtualMemory (meminfo : Table Nat) : Outcome VirtualMemory := do
  let get (key : String) := meminfo.get? key
  let some total := get "MemTotal" | Outcome.report (.parse "/proc/meminfo" "missing MemTotal")
  let free := (get "MemFree").getD 0
  let buffers := (get "Buffers").getD 0
  let cached ← Word.add ((get "Cached").getD 0) ((get "SReclaimable").getD 0)
  let reusable ← Word.add free cached
  let unused ← Word.add reusable buffers
  -- Some containers report caches beyond their limit.
  let used := if total - unused = 0 then total - free else total - unused
  let available := min ((get "MemAvailable").getD reusable) total
  return {
    total, available, used, free, active := get "Active", inactive := get "Inactive", buffers, cached,
    shared := get "Shmem" <|> get "MemShared", slab := get "Slab" }

/-- Swap space and, where counts are known, the traffic to it in bytes. -/
def swapMemory (meminfo : Table Nat) (vmstat : Option (Table Nat)) (pageSize : Nat) : Outcome SwapMemory := do
  let some total := meminfo.get? "SwapTotal" | Outcome.report (.parse "/proc/meminfo" "missing SwapTotal")
  let free := (meminfo.get? "SwapFree").getD 0
  let traffic (key : String) : Outcome Nat :=
    match vmstat with
    | some counts => Word.mul ((counts.get? key).getD 0) pageSize
    | none => .ok 0
  let swappedIn ← traffic "pswpin"
  let swappedOut ← traffic "pswpout"
  return { total, used := total - free, free, swappedIn, swappedOut }

end HostProbe.Procfs
