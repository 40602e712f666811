import HostProbe.LoadAverage
import HostProbe.Platform
import HostProbe.Windows.Native

/-! Load averages on Windows, which keeps none: a counter of the waiting threads is sampled from the first question
on. -/
namespace HostProbe.Windows.Sampler

def queueLength : String := "\\System\\Processor Queue Length"

def record (value : Option Float) : SampledQuery Unit := do
  if let some value := value then
    modify fun s => { s with averages := LoadAverage.record s.averages value }

def succeeded (call : String) : Except ReturnCode Unit → Query Unit
  | .ok () => return ()
  | .error code => codeFailure call code

def step (call : String) (c : Program (Except ReturnCode Unit)) : SampledQuery Unit :=
  .ofQuery do succeeded call (← (c : Program (Except ReturnCode Unit)))

def fallibleStep (call : String) (c : Program (Except IoError Unit)) : SampledQuery Unit :=
  .ofQuery do answered call (← (c : Program (Except IoError Unit)))

/-- Opens the counter and has it collected from now on, at once too where wanted. A sample that was taken counts even
if a later step fails. -/
def start (atOnce : Bool) : SampledQuery Unit := do
  step "PdhOpenQueryW" (Ask.windows .openCounters)
  step "PdhAddEnglishCounterW" (Ask.windows (.addCounter queueLength))
  if atOnce then
    step "PdhCollectQueryData" (Ask.windows .collectCounters)
    record (← SampledQuery.ofQuery (ExceptT.lift (Ask.windows .counterValue)))
  fallibleStep "CreateEventW" (Ask.windows .createEvent)
  step "PdhCollectQueryDataEx" (Ask.windows (.collectEvery LoadAverage.samplingInterval))
  fallibleStep "RegisterWaitForSingleObject" (Ask.windows .registerWait)

/-- The averages with what was collected until now; the first question starts the sampling. -/
def loadAverage (atOnce : Bool) : SampledQuery LoadAverage := do
  if !(← get).started then
    start atOnce
    modify fun s => { s with started := true }
  (← SampledQuery.ofQuery (ExceptT.lift (Ask.windows .collectedValues))).forM record
  return (← get).averages

end HostProbe.Windows.Sampler
