import HostProbe.Linux.Probe
import HostProbe.Procfs.Cpuinfo
import HostProbe.Record.System

/-! Number and clock rates of processors. -/
namespace HostProbe.Linux.Probe

def cpuCountLogical (p : Probe) : Query Nat := do
  let online ← (Ask.posix (.setting .processors) : Program Int)
  if online > 0 then return online.toNat
  let stat ← p.stat
  if stat.perCpu.isEmpty then Query.report (.unsupported "cpu_count_logical")
  return stat.perCpu.length

def namesProcessor (name : String) : Bool :=
  match Text.dropPrefix? "cpu".toList name.toList with
  | some index => !index.isEmpty && index.all Char.isDigit
  | none => false

/-- List of the processors that share a core with the one of a directory; older kernels name the file otherwise. -/
def siblings (dir : String) : Program (Option Text) := do
  let topology := Path.join dir "topology"
  match ← Ask.readText (Path.join topology "core_cpus_list") with
  | .ok list => return some (Text.trim list)
  | .error _ =>
    match ← Ask.readText (Path.join topology "thread_siblings_list") with
    | .ok list => return some (Text.trim list)
    | .error _ => return none

/-- Number of distinct sibling lists, or else of cores that `cpuinfo` tells apart. -/
def cpuCountCores (p : Probe) : Query Nat := do
  let dir := Path.join p.sysfs "devices/system/cpu"
  let names ← (Ask.file (.list dir) : Program (Except IoError (List String)))
  let lists ← ((names.toOption.getD []).filter namesProcessor).mapM fun name =>
    (siblings (Path.join dir name) : Program (Option Text))
  let distinct := (lists.filterMap id).eraseDups
  if !distinct.isEmpty then return distinct.length
  let cores := Procfs.coresFromCpuinfo (← p.procfs.read "cpuinfo")
  if cores = 0 then Query.report (.unsupported "cpu_count_cores")
  return cores

def readRate (path : String) : Program (Option Float) := do
  match ← Ask.readText path with
  | .ok text => return (Real.read? (Text.trim text)).map (· / 1000.0)
  | .error _ => return none

/-- Rates of one frequency policy; without a current rate it counts for nothing. -/
def frequencyPolicy (dir : String) : Program (Option CpuFrequency) := do
  let current ← match ← readRate (Path.join dir "scaling_cur_freq") with
    | some rate => pure (some rate)
    | none => readRate (Path.join dir "cpuinfo_cur_freq")
  match current with
  | none => return none
  | some current =>
    let min ← readRate (Path.join dir "cpuinfo_min_freq")
    let max ← readRate (Path.join dir "cpuinfo_max_freq")
    return some { current, min := min.getD 0.0, max := max.getD 0.0 }

/-- Sum in order, which begins at negative zero so that nothing is added to it. -/
def sum (xs : List Float) : Float := xs.foldl (· + ·) (-0.0)

def mean (xs : List Float) : Float := sum xs / Real.ofNat xs.length

/-- Mean of the policies' current rates between their outermost bounds, or else what was measured at boot. -/
def cpuFrequency (p : Probe) : Query CpuFrequency := do
  let dir := Path.join p.sysfs "devices/system/cpu/cpufreq"
  let names ← (Ask.file (.list dir) : Program (Except IoError (List String)))
  let policies ← ((names.toOption.getD []).filter fun n => "policy".toList.isPrefixOf n.toList).mapM fun name =>
    (frequencyPolicy (Path.join dir name) : Program (Option CpuFrequency))
  let policies := policies.filterMap id
  if !policies.isEmpty then
    let min := (policies.map CpuFrequency.min).foldl Real.min Real.infinity
    return {
      current := mean (policies.map CpuFrequency.current)
      min := if min.isFinite then min else 0.0
      max := (policies.map CpuFrequency.max).foldl Real.max 0.0 }
  let speeds := Procfs.megahertzFromCpuinfo (← p.procfs.read "cpuinfo")
  if speeds.isEmpty then Query.report (.unsupported "cpu_freq")
  return { current := mean speeds }

end HostProbe.Linux.Probe
