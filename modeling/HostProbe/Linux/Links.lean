import HostProbe.Linux.Probe
import HostProbe.Posix.Interfaces

/-! State of network interfaces, asked through a control socket. -/
namespace HostProbe.Linux

def interfaceNameSize : Nat := 16

def checkInterfaceName (name : String) : Outcome Unit :=
  if Text.byteLength name.toList ≥ interfaceNameSize || name.toList.contains '\x00' then
    Outcome.report (.noSuchDevice name)
  else .ok ()

def controlSocket : Query Unit := do
  match ← (Ask.posix .controlSocket : Program (Except IoError Unit)) with
  | .ok () => return ()
  | .error cause => Query.report (.os "socket" cause)

def linkMtu (name : String) : Query Nat := do
  Query.lift (checkInterfaceName name)
  match ← (Ask.posix (.linkMtu name) : Program (Except IoError Int)) with
  | .ok mtu => return mtu.toNat
  | .error cause =>
    if cause = .number ErrorNumber.noDevice then Query.report (.noSuchDevice name)
    Query.report (.os s!"ioctl(SIOCGIFMTU, {name})" cause)

/-- Speed from its two halves; all ones mean that it is unknown. -/
def linkSpeed (s : LinkSettings) : Nat :=
  let speed := s.speedLow + s.speedHigh * 65536
  if speed = 0xffffffff || speed = 0xffff then 0 else speed

def linkDuplex (s : LinkSettings) : Duplex :=
  match s.duplex with
  | 0 => .half
  | 1 => .full
  | _ => .unknown

/-- Duplex and speed; what the driver refuses to tell, like every other failure, leaves them unknown. -/
def duplexAndSpeed (name : String) : Program (Duplex × Nat) := do
  match ← Ask.posix (.linkSettings name) with
  | .ok s => return (linkDuplex s, linkSpeed s)
  | .error _ => return (.unknown, 0)

def nicStats (name : String) (flags : Nat) : Query (Option NicStats) := do
  match ← (linkMtu name).attempt with
  | .error (.noSuchDevice _) => return none
  | .error error => Query.report error
  | .ok mtu =>
    let (duplex, speed) ← (duplexAndSpeed name : Program _)
    return some { isUp := Posix.isUp flags, duplex, speed, mtu, flags := Posix.flagNames 0x1000 flags }

def netStats : Query (Table NicStats) := do
  controlSocket
  let stats ← (← Posix.interfaceFlags).mapM fun (name, flags) => do
    return (← nicStats name flags).map fun s => (name, s)
  return stats.filterMap id

end HostProbe.Linux
