import HostProbe.Linux.Probe
import HostProbe.Record.Session

/-! Batteries and temperatures. -/
namespace HostProbe.Linux

namespace Sensor

def readTrimmed (path : String) : Program (Option Text) := do
  return (← Ask.readText path).toOption.map Text.trim

def readNumber (path : String) : Program (Option Float) := do
  return (← readTrimmed path).bind Real.read?

def firstNumber (dir : String) : List String → Program (Option Float)
  | [] => return none
  | name :: names => do
    match ← readNumber (Path.join dir name) with
    | some x => return some x
    | none => firstNumber dir names

def isBattery (dir : String) : Program Bool := do
  return (← readTrimmed (Path.join dir "type")) = some "Battery".toList

def pluggedOfStatus (status : Text) : Option Bool :=
  let status := Text.lower status
  if status = "charging".toList || status = "full".toList then some true
  else if status = "discharging".toList then some false
  else none

/-- Share of the charge that is left: from the charge and its full size, or else as the battery tells it. -/
def percent (dir : String) (now full : Option Float) : Program (Option Float) :=
  match now, full with
  | some now, some full =>
    if full > 0.0 then return some (Real.min (now / full * 100.0) 100.0)
    else readNumber (Path.join dir "capacity")
  | _, _ => readNumber (Path.join dir "capacity")

def timeLeft (plugged : Option Bool) (now rate : Option Float) : BatteryTime :=
  if plugged = some true then .unlimited
  else
    match now, rate with
    | some now, some rate => if rate > 0.0 then .seconds (Real.toWord (now / rate * 3600.0)) else .unknown
    | _, _ => .unknown

def findSome {α β : Type} (f : α → Program (Option β)) : List α → Program (Option β)
  | [] => return none
  | a :: rest => do
    match ← f a with
    | some b => return some b
    | none => findSome f rest

end Sensor

namespace Probe

open Sensor

def supplies (p : Probe) : Program (List String) := do
  let dir := Path.join p.sysfs "class/power_supply"
  match ← Ask.file (.list dir) with
  | .error _ => return []
  | .ok names => return (names.mergeSort fun a b => Text.le a.toList b.toList).map (Path.join dir)

def readBattery (p : Probe) : Program (Option Battery) := do
  let supplies ← p.supplies
  match ← findSome (fun dir => do return if ← isBattery dir then some dir else none) supplies with
  | none => return none
  | some dir =>
    let now ← firstNumber dir ["energy_now", "charge_now"]
    let full ← firstNumber dir ["energy_full", "charge_full"]
    match ← percent dir now full with
    | none => return none
    | some percent =>
      let online ← findSome (fun s => do
        if ← isBattery s then return none
        readNumber (Path.join s "online")) supplies
      let plugged ← match online with
        | some x => pure (some (x != 0.0))
        | none => do pure ((← readTrimmed (Path.join dir "status")).bind pluggedOfStatus)
      let rate ← firstNumber dir ["power_now", "current_now"]
      return some { percent, left := timeLeft plugged now rate, plugged }

def battery (p : Probe) : Query (Option Battery) := p.readBattery

/-- Name of the attributes of an input file: what stands before its ending. -/
def temperatureInput? (file : String) : Option String := do
  let stem ← Text.dropSuffix? "_input".toList file.toList
  if "temp".toList.isPrefixOf stem then some (String.ofList stem) else none

def readTemperature (dir stem : String) : Program (Option Temperature) := do
  let degrees (suffix : String) : Program (Option Float) := do
    return (← readNumber (Path.join dir s!"{stem}_{suffix}")).map (· / 1000.0)
  match ← degrees "input" with
  | none => return none
  | some current =>
    let label ← readTrimmed (Path.join dir s!"{stem}_label")
    let high ← degrees "max"
    let critical ← degrees "crit"
    return some { label := String.ofList (label.getD []), current, high, critical }

/-- Readings of one monitor; old drivers keep its attributes one directory below. -/
def readMonitor (monitor : String) : Program (List (String × Temperature)) := do
  let dir := if ← Ask.fileExists (Path.join monitor "name") then monitor else Path.join monitor "device"
  match ← readTrimmed (Path.join dir "name") with
  | none => return []
  | some name =>
    match ← Ask.file (.list dir) with
    | .error _ => return []
    | .ok files =>
      let stems := (files.filterMap temperatureInput?).mergeSort fun a b => Text.le a.toList b.toList
      let readings ← stems.mapM (readTemperature dir)
      return (readings.filterMap id).map fun t => (String.ofList name, t)

def temperatures (p : Probe) : Query Temperatures := do
  let dir := Path.join p.sysfs "class/hwmon"
  match ← (Ask.file (.list dir) : Program (Except IoError (List String))) with
  | .error _ => return []
  | .ok names =>
    let readings ← names.mapM fun name => (readMonitor (Path.join dir name) : Program _)
    return readings.flatten.foldl (fun t (name, reading) =>
      Table.update t name fun old => old.getD [] ++ [reading]) []

end Probe
end HostProbe.Linux
