import HostProbe.Error
import HostProbe.Text.Utf8

/-! Questions and commands that systems of the Unix family share. -/
namespace HostProbe

structure VolumeBlocks where
  blocks : Nat := 0
  free : Nat := 0
  available : Nat := 0
  fragmentSize : Nat := 0
  deriving Repr, DecidableEq, Inhabited

inductive Setting
  | clockTicks
  | pageSize
  | processors
  deriving Repr, DecidableEq, Inhabited

structure LinkCounters where
  mtu : Nat := 0
  baudRate : Nat := 0
  inPackets : Nat := 0
  inErrors : Nat := 0
  outPackets : Nat := 0
  outErrors : Nat := 0
  inBytes : Nat := 0
  outBytes : Nat := 0
  inDrops : Nat := 0
  outDrops : Nat := 0
  deriving Repr, DecidableEq, Inhabited

structure InterfaceEntry where
  name : Option Bytes
  flags : Nat := 0
  address : Option Bytes := none
  netmask : Option Bytes := none
  /-- Broadcast address or the peer of a point-to-point link. -/
  other : Option Bytes := none
  counters : Option LinkCounters := none
  deriving Repr, DecidableEq, Inhabited

structure LinkSettings where
  duplex : Nat := 0
  speedLow : Nat := 0
  speedHigh : Nat := 0
  deriving Repr, DecidableEq, Inhabited

structure LoginEntry where
  type : Int
  user : Bytes
  line : Bytes
  host : Bytes
  seconds : Int := 0
  microseconds : Int := 0
  pid : Int := 0
  deriving Repr, DecidableEq, Inhabited

inductive PosixCall
  /-- Sends a signal; zero only asks whether one could be sent. -/
  | kill (pid : Pid) (signal : Int)
  | getPriority (which : Int) (pid : Pid)
  | setPriority (which : Int) (pid : Pid) (value : Int)
  /-- Words of the mask of processors a process may run on, into so many bytes. -/
  | getAffinity (pid : Pid) (size : Nat)
  | setAffinity (pid : Pid) (words : List Nat)
  /-- The same through a set of processors that is selected by a level and a kind of owner. -/
  | getCpuSet (level which : Int) (pid : Pid) (size : Nat)
  | setCpuSet (level which : Int) (pid : Pid) (words : List Nat)
  /-- Soft and hard bound of a numbered resource. -/
  | resourceLimit (pid : Pid) (resource : Nat)
  | volume (path : String)
  | setting (name : Setting)
  /-- Seconds and nanoseconds on the wall clock. -/
  | now
  | interfaces
  /-- A socket that interface requests go through. -/
  | controlSocket
  | linkMtu (name : String)
  | linkSettings (name : String)
  /-- Active media word of an interface. -/
  | linkMedia (name : String)
  | logins
  /-- Load averages, as many as the system knows. -/
  | loadAverages
  /-- Name of the character device of a number. -/
  | deviceName (number : Nat)
  /-- Number that the last failure left behind. -/
  | lastError
  deriving Repr, DecidableEq

@[reducible] def PosixCall.Answer : PosixCall → Type
  | kill .. => Except IoError Unit
  | getPriority .. => Except IoError Int
  | setPriority .. => Except IoError Unit
  | getAffinity .. => Except IoError (List Nat)
  | setAffinity .. => Except IoError Unit
  | getCpuSet .. => Except IoError (List Nat)
  | setCpuSet .. => Except IoError Unit
  | resourceLimit .. => Except IoError (Nat × Nat)
  | volume _ => Except IoError VolumeBlocks
  | setting _ => Int
  | now => Int × Nat
  | interfaces => Except IoError (List InterfaceEntry)
  | controlSocket => Except IoError Unit
  | linkMtu _ => Except IoError Int
  | linkSettings _ => Except IoError LinkSettings
  | linkMedia _ => Except IoError Nat
  | logins => List LoginEntry
  | loadAverages => Except IoError (List Float)
  | deviceName _ => Option String
  | lastError => ErrorNumber

end HostProbe
