import HostProbe.Procfs.Fields
import HostProbe.Record.System

/-! The system's `stat` file: time spent by all processors and by each, counts of events and the boot time; and the
files that hold load averages and the time since booting. -/
namespace HostProbe.Procfs

structure Stat where
  total : CpuTimes := {}
  perCpu : List CpuTimes := []
  contextSwitches : Nat := 0
  interrupts : Nat := 0
  softInterrupts : Nat := 0
  bootTime : Option Nat := none
  deriving Inhabited

namespace Stat

def failure {α : Type} (detail : String) : Outcome α := Outcome.report (.parse "/proc/stat" detail)

/-- Times of a processor line; columns past the fourth came with later kernels and may be missing. -/
def cpuTimes (clockTicks : Float) (fields : List Text) : Outcome CpuTimes := do
  let values ← fields.mapM fun v =>
    match Integer.word v with
    | .ok ticks => (.ok (Real.ofNat ticks / clockTicks) : Outcome Float)
    | .error fault => failure s!"bad cpu field: {fault.message}"
  match values with
  | user :: nice :: system :: idle :: later =>
    return {
      user, nice, system, idle, iowait := later[0]?, irq := later[1]?, softirq := later[2]?,
      steal := later[3]?, guest := later[4]?, guestNice := later[5]? }
  | _ => failure "cpu line has fewer than 4 fields"

/-- The first field as a count; zero where it is missing or no number. -/
def count (fields : List Text) : Nat := ((fields.head?.bind Integer.word?).getD 0)

/-- Takes one line; the flag says whether the line of all processors was seen. -/
def readLine (clockTicks : Float) (seen : Stat × Bool) (line : Text) : Outcome (Stat × Bool) :=
  let (stat, total) := seen
  match Text.words line with
  | [] => .ok seen
  | key :: fields =>
    if key = "cpu".toList then do return ({ stat with total := ← cpuTimes clockTicks fields }, true)
    else if "cpu".toList.isPrefixOf key then do
      return ({ stat with perCpu := (← cpuTimes clockTicks fields) :: stat.perCpu }, total)
    else if key = "ctxt".toList then .ok ({ stat with contextSwitches := count fields }, total)
    else if key = "intr".toList then .ok ({ stat with interrupts := count fields }, total)
    else if key = "softirq".toList then .ok ({ stat with softInterrupts := count fields }, total)
    else if key = "btime".toList then .ok ({ stat with bootTime := fields.head?.bind Integer.word? }, total)
    else .ok seen

def parse (text : Text) (clockTicks : Float) : Outcome Stat := do
  let (stat, total) ← text.lines.foldlM (readLine clockTicks) ({}, false)
  if total then return { stat with perCpu := stat.perCpu.reverse } else failure "no aggregate cpu line"

end Stat

def parseLoadAverage (text : Text) : Outcome LoadAverage :=
  match (text.words.take 3).map Real.read? with
  | [some one, some five, some fifteen] => .ok { one, five, fifteen }
  | _ => Outcome.report (.parse "/proc/loadavg" "expected three load averages")

def bootTimeFromUptime (text : Text) (now : Float) : Outcome Float :=
  match text.words.head?.bind Real.read? with
  | some uptime => .ok (now - uptime)
  | none => Outcome.report (.parse "/proc/uptime" "expected uptime in seconds")

end HostProbe.Procfs
