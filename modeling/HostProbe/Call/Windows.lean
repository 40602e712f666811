import HostProbe.Error
import HostProbe.Text.Utf16

/-! Questions and commands to a Windows kernel. Processes are opened before they are asked about, and strings are in
UTF-16 units. -/
namespace HostProbe

/-- Status of a native call: negative when its highest bit is set. -/
abbrev NtStatus := Nat

abbrev ReturnCode := Nat

/-- What a call leaves in a buffer: its status, the length it reports, and the bytes, which lie at an address that
pointers in them refer to. -/
structure NativeReply where
  status : NtStatus := 0
  length : Nat := 0
  bytes : Bytes := []
  address : Nat := 0
  deriving Repr, DecidableEq, Inhabited

/-- What a call leaves in a buffer that may lack room: all of it, the room it takes, or a failure. -/
inductive RoomReply (ε α : Type)
  | filled (answer : α)
  | tooSmall (needed : Nat)
  | failed (cause : ε)
  deriving Repr, Inhabited

structure MemoryStatus where
  totalPhysical : Nat := 0
  availablePhysical : Nat := 0
  totalCommit : Nat := 0
  availableCommit : Nat := 0
  deriving Repr, DecidableEq, Inhabited

structure PowerStatus where
  line : Nat := 0
  flags : Nat := 0
  percent : Nat := 0
  /-- Seconds that the battery lasts. -/
  left : Nat := 0
  deriving Repr, DecidableEq, Inhabited

structure AdapterEntry where
  name : List UInt16
  hardware : Bytes := []
  mtu : Nat := 0
  type : Nat := 0
  status : Int := 0
  /-- Bits per second. -/
  speed : Nat := 0
  id : Nat := 0
  addresses : List (Bytes × Nat) := []
  deriving Repr, DecidableEq, Inhabited

structure AdapterTraffic where
  outBytes : Nat := 0
  inBytes : Nat := 0
  outUnicast : Nat := 0
  outOther : Nat := 0
  inUnicast : Nat := 0
  inOther : Nat := 0
  inErrors : Nat := 0
  outErrors : Nat := 0
  inDrops : Nat := 0
  outDrops : Nat := 0
  deriving Repr, DecidableEq, Inhabited

structure ProcessTicks where
  created : Int := 0
  kernel : Int := 0
  user : Int := 0
  deriving Repr, DecidableEq, Inhabited

structure WorkingSetCounters where
  workingSet : Nat := 0
  privateUsage : Nat := 0
  faults : Nat := 0
  peak : Nat := 0
  deriving Repr, DecidableEq, Inhabited

structure TransferCounters where
  reads : Nat := 0
  writes : Nat := 0
  readBytes : Nat := 0
  writtenBytes : Nat := 0
  deriving Repr, DecidableEq, Inhabited

structure PageRange where
  base : Nat := 0
  size : Nat := 0
  state : Nat := 0
  type : Nat := 0
  protection : Nat := 0
  deriving Repr, DecidableEq, Inhabited

structure WorkingSetReply where
  count : Nat := 0
  blocks : List Nat := []
  deriving Repr, DecidableEq, Inhabited

inductive ProcessHandle
  | current
  | opened (pid : Pid)
  deriving Repr, DecidableEq, Inhabited

inductive WindowsCall
  /-- A class of system information, into so many bytes. -/
  | system (cls room : Nat)
  /-- Ticks that the processors were idle, in the kernel (idling included) and in user code. -/
  | systemTimes
  | processorCount
  /-- Records of the processors' cores, into so many bytes. -/
  | processorCores (room : Nat)
  /-- Records of the processors' clocks, into so many bytes. -/
  | processorPower (room : Nat)
  | memoryStatus
  /-- Size of a page. -/
  | pageSize
  /-- Milliseconds since the system's start. -/
  | uptime
  | powerStatus
  | sessions
  | sessionUser (session : Nat)
  /-- Family and bytes of the address of a session's client. -/
  | sessionClient (session : Nat)
  /-- Ticks of the logon, and the station. -/
  | sessionInfo (session : Nat)
  /-- Names of the drives' roots, each ended by a zero unit. -/
  | driveStrings (room : Nat)
  | driveType (root : String)
  /-- Flags and file system of the volume at a root. -/
  | volume (root : String)
  /-- Names of the devices of a drive, each ended by a zero unit. -/
  | driveDevices (drive : String) (room : Nat)
  /-- Bytes that are available to the caller, in total and free. -/
  | freeSpace (path : String)
  | openDisk (number : Nat)
  | diskPerformance (number room : Nat)
  /-- All adapters, into so many bytes. -/
  | adapters (room : Nat)
  | adapterTraffic (id : Nat)
  /-- The table of sockets of a protocol and family with their owners, into so many bytes. -/
  | tcpTable (family room : Nat)
  | udpTable (family room : Nat)
  | openProcess (pid : Pid) (access : Nat)
  | exitCode (process : Pid)
  /-- Path of the program, into so many units. -/
  | imageName (process : Pid) (room : Nat)
  | commandLine (process : Pid) (room : Nat)
  /-- Address of the block that describes a process; zero where it has none that can be read. -/
  | environmentBlock (process : Pid)
  | readMemory (process : Pid) (address size : Nat)
  | pages (process : Pid) (address : Nat)
  /-- Path of the file that is mapped at an address. -/
  | mappedFile (process : Pid) (address room : Nat)
  | processTimes (process : Pid)
  | memoryCounters (process : ProcessHandle)
  /-- Blocks of the pages in memory, into room for so many. -/
  | workingSet (process : ProcessHandle) (room : Nat)
  | transfers (process : Pid)
  | handleCount (process : Pid)
  | priorityClass (process : Pid)
  | setPriorityClass (process : Pid) (cls : Nat)
  /-- Masks of the processors that a process may run on and that there are. -/
  | affinityMasks (process : Pid)
  | setAffinityMask (process : Pid) (mask : Nat)
  | terminate (process : Pid) (code : Nat)
  | suspend (process : Pid)
  | resume (process : Pid)
  /-- A copy of a process's handle. -/
  | duplicate (process : Pid) (handle : Nat)
  /-- Starts a thread that looks at a handle. -/
  | startThread
  | fileType (handle : Nat)
  | fileAttributes (handle : Nat)
  | finalPath (handle room : Nat)
  /-- Waits so many milliseconds for the thread that looks at a handle. -/
  | awaitThread (handle milliseconds : Nat)
  | terminateThread
  | openCounters
  | addCounter (path : String)
  | collectCounters
  /-- Value of the counter as it was collected. -/
  | counterValue
  | createEvent
  /-- Collects every so many seconds from now on. -/
  | collectEvery (seconds : Nat)
  | registerWait
  /-- Values that were collected since they were last asked for. -/
  | collectedValues
  deriving Repr, DecidableEq

@[reducible] def WindowsCall.Answer : WindowsCall → Type
  | system .. => NativeReply
  | systemTimes => Except IoError (Int × Int × Int)
  | processorCount => Except IoError Nat
  | processorCores _ => RoomReply IoError Bytes
  | processorPower _ => NativeReply
  | memoryStatus => Except IoError MemoryStatus
  | pageSize => Nat
  | uptime => Nat
  | powerStatus => Except IoError PowerStatus
  | sessions => Except IoError (List Nat)
  | sessionUser _ => Option (List UInt16)
  | sessionClient _ => Option (Nat × Bytes)
  | sessionInfo _ => Option (Int × List UInt16)
  | driveStrings _ => Except IoError (List UInt16)
  | driveType _ => Nat
  | volume _ => Except IoError (Nat × List UInt16)
  | driveDevices .. => Except IoError (List UInt16)
  | freeSpace _ => Except IoError (Nat × Nat × Nat)
  | openDisk _ => Except IoError Unit
  | diskPerformance .. => Except IoError Bytes
  | adapters _ => RoomReply ReturnCode (List AdapterEntry)
  | adapterTraffic _ => Except ReturnCode AdapterTraffic
  | tcpTable .. => RoomReply ReturnCode Bytes
  | udpTable .. => RoomReply ReturnCode Bytes
  | openProcess .. => Except IoError Unit
  | exitCode _ => Except IoError Nat
  | imageName .. => Except IoError (List UInt16)
  | commandLine .. => NativeReply
  | environmentBlock _ => Except NtStatus Nat
  | readMemory .. => Except IoError Bytes
  | pages .. => Except IoError PageRange
  | mappedFile .. => Except IoError (List UInt16)
  | processTimes _ => Except IoError ProcessTicks
  | memoryCounters _ => Except IoError WorkingSetCounters
  | workingSet .. => RoomReply IoError WorkingSetReply
  | transfers _ => Except IoError TransferCounters
  | handleCount _ => Except IoError Nat
  | priorityClass _ => Except IoError Nat
  | setPriorityClass .. => Except IoError Unit
  | affinityMasks _ => Except IoError (Nat × Nat)
  | setAffinityMask .. => Except IoError Unit
  | terminate .. => Except IoError Unit
  | suspend _ => NtStatus
  | resume _ => NtStatus
  | duplicate .. => Except IoError Unit
  | startThread => Except IoError Unit
  | fileType _ => Nat
  | fileAttributes _ => Except IoError Nat
  | finalPath .. => Except IoError (List UInt16)
  | awaitThread .. => Bool
  | terminateThread => Unit
  | openCounters => Except ReturnCode Unit
  | addCounter _ => Except ReturnCode Unit
  | collectCounters => Except ReturnCode Unit
  | counterValue => Option Float
  | createEvent => Except IoError Unit
  | collectEvery _ => Except ReturnCode Unit
  | registerWait => Except IoError Unit
  | collectedValues => List (Option Float)

end HostProbe
