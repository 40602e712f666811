import HostProbe.Record.System

/-! Load averages kept from samples taken every five seconds, for systems that keep none. -/
namespace HostProbe.LoadAverage

/-- Share of the old average that survives one sample, over one, five and fifteen minutes. -/
def decayOne : Float := 0.9200444146293233
def decayFive : Float := 0.9834714538216175
def decayFifteen : Float := 0.9944598480048967

def samplingInterval : Nat := 5

def decay (average factor sample : Float) : Float := average * factor + sample * (1.0 - factor)

def record (averages : LoadAverage) (sample : Float) : LoadAverage where
  one := decay averages.one decayOne sample
  five := decay averages.five decayFive sample
  fifteen := decay averages.fifteen decayFifteen sample

def recordTimes (averages : LoadAverage) (sample : Float) : Nat → LoadAverage
  | 0 => averages
  | n + 1 => recordTimes (record averages sample) sample n

/-- The averages before any sample and after each run of equal samples. -/
def history (runs : List (Float × Nat)) : List LoadAverage :=
  (runs.foldl (fun (found : List LoadAverage × LoadAverage) run =>
    let next := recordTimes found.2 run.1 run.2
    (next :: found.1, next)) ([{}], {})).1.reverse

end HostProbe.LoadAverage
