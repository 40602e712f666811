import HostProbe.Error
import HostProbe.Json
import HostProbe.Table

/-! What is reported about users, batteries and temperatures. -/
namespace HostProbe

structure User where
  name : String
  terminal : Option String := none
  host : Option String := none
  started : Float
  pid : Option Pid := none
  deriving Inhabited

def User.toJson (u : User) : Json :=
  .record [.field "name" (.text u.name), .field? "terminal" .text u.terminal, .field? "host" .text u.host,
    .field "started" (.real u.started), .field? "pid" .int u.pid]

inductive BatteryTime
  | unknown
  | unlimited
  | seconds (n : Nat)
  deriving Repr, DecidableEq, Inhabited

def BatteryTime.toJson : BatteryTime → Json
  | unknown => .text "unknown"
  | unlimited => .text "unlimited"
  | seconds n => .object [("seconds", .nat n)]

structure Battery where
  percent : Float
  left : BatteryTime
  plugged : Option Bool := none
  deriving Inhabited

def Battery.toJson (b : Battery) : Json :=
  .record [.field "percent" (.real b.percent), .field "secs_left" b.left.toJson,
    .field? "power_plugged" .bool b.plugged]

structure Temperature where
  label : String
  current : Float
  high : Option Float := none
  critical : Option Float := none
  deriving Inhabited

def Temperature.toJson (t : Temperature) : Json :=
  .record [.field "label" (.text t.label), .field "current" (.real t.current), .field? "high" .real t.high,
    .field? "critical" .real t.critical]

abbrev Temperatures := Table (List Temperature)

end HostProbe
