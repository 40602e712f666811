import HostProbe.Bytes
import HostProbe.Host.Failure
import HostProbe.Host.Sysctl
import HostProbe.Json

/-! Recorded answers of a Windows kernel. What has no record is empty, zero or not to be found; commands are noted as
they are made. -/
namespace HostProbe

structure NativeRecord where
  status : NtStatus := 0
  /-- Length that is reported in place of the real one. -/
  length : Option Nat := none
  bytes : Bytes := []
  deriving Repr, DecidableEq, Inhabited

namespace NativeRecord

def lengthMismatch : NtStatus := 0xC0000004

def reported (r : NativeRecord) : Nat := r.length.getD r.bytes.length

def reply (r : NativeRecord) (room : Nat) : NativeReply :=
  let reply : NativeReply := { length := r.reported, bytes := r.bytes, address := TableRecord.bufferAddress }
  if r.status ≠ 0 then { reply with status := r.status, bytes := [] }
  else if r.bytes.length > room then { reply with status := lengthMismatch, bytes := [] }
  else reply

def whole {ε : Type} (r : NativeRecord) (room : Nat) : RoomReply ε Bytes :=
  if r.bytes.length > room then .tooSmall r.reported
  else .filled ((r.bytes ++ List.replicate (min r.reported room - r.bytes.length) 0).take (min r.reported room))

end NativeRecord

inductive WorkingSetRecord
  | blocks (blocks : List Nat) (count : Option Nat)
  | growing (count : Nat)
  deriving Repr, Inhabited

structure Segment where
  address : Nat
  bytes : Bytes
  deriving Repr, Inhabited

structure WindowsProcess where
  openFailure : Option ErrorNumber := none
  exitCode : Nat := 259
  image : List UInt16 := []
  command : NativeRecord := {}
  times : ProcessTicks := {}
  memory : WorkingSetCounters := {}
  transfers : TransferCounters := {}
  handles : Nat := 0
  priority : Nat := 0
  affinity : Nat × Nat := (0, 0)
  workingSet : WorkingSetRecord := .blocks [] none
  environmentBlock : Except NtStatus Nat := .ok 0
  segments : List Segment := []
  ranges : List (PageRange × List UInt16) := []
  control : NtStatus := 0
  deriving Inhabited

namespace WindowsProcess

/-- Numbers of the failures of reading memory and of asking for a range behind the last. -/
def unreadable : ErrorNumber := 5
def pastLast : ErrorNumber := 87

def read (p : WindowsProcess) (address size : Nat) : Except IoError Bytes :=
  match p.segments.find? fun s => s.address ≤ address && address < s.address + s.bytes.length with
  | some s => .ok ((s.bytes.drop (address - s.address)).take size)
  | none => .error (.number unreadable)

def range? (p : WindowsProcess) (address : Nat) : Option (PageRange × List UInt16) :=
  p.ranges.find? fun r => r.1.base ≤ address && address < r.1.base + r.1.size

end WindowsProcess

structure SessionRecord where
  id : Nat
  user : Option (List UInt16) := none
  client : Option (Nat × Bytes) := none
  info : Option (Int × List UInt16) := none
  deriving Inhabited

structure DriveRecord where
  type : Nat := 0
  /-- Flags and file system of the volume, if there is one. -/
  volume : Option (Nat × List UInt16) := none
  deriving Inhabited

structure HandleRecord where
  path : List UInt16 := []
  type : Nat := 1
  attributes : Nat := 0
  /-- Whether looking at it takes too long. -/
  hangs : Bool := false
  deriving Inhabited

structure WindowsRecord where
  /-- Numbers with which calls of a name fail. -/
  failures : List (String × ErrorNumber) := []
  tables : List (Nat × NativeRecord) := []
  processes : List (Pid × WindowsProcess) := []
  pageSize : Nat := 4096
  times : Int × Int × Int := (0, 0, 0)
  processors : Nat := 0
  cores : NativeRecord := {}
  power : NativeRecord := {}
  memory : MemoryStatus := {}
  uptime : Nat := 0
  battery : PowerStatus := {}
  sessions : List SessionRecord := []
  driveNames : List (List UInt16) := []
  drives : List (String × DriveRecord) := []
  devices : List (String × List (List UInt16)) := []
  space : Nat × Nat × Nat := (0, 0, 0)
  /-- Disks, or the numbers with which opening them or reading their counters fails. -/
  disks : List (Nat × Except ErrorNumber (Except ErrorNumber Bytes)) := []
  adapters : Except ReturnCode (List AdapterEntry) := .ok []
  /-- Least room for the adapters. -/
  adaptersRoom : Nat := 0
  traffics : List (Nat × Except ReturnCode AdapterTraffic) := []
  tcpTables : List (Nat × Except ReturnCode NativeRecord) := []
  udpTables : List (Nat × Except ReturnCode NativeRecord) := []
  handles : List (Nat × HandleRecord) := []
  /-- Codes with which calls about counters fail. -/
  counterFailures : List (String × ReturnCode) := []
  /-- Values of the counter that are still to come, and those that were collected since they were asked for. -/
  upcoming : List (Option Float) := []
  collected : List (Option Float) := []
  deriving Inhabited

namespace WindowsRecord

def find? {κ α : Type} [BEq κ] (entries : List (κ × α)) (key : κ) : Option α :=
  (entries.find? fun e => e.1 == key).map (·.2)

def answered {α : Type} (record : WindowsRecord) (name : String) (answer : Except ErrorNumber α) : Except IoError α :=
  match find? record.failures name with
  | some n => .error (.number n)
  | none =>
    match answer with
    | .ok a => .ok a
    | .error n => .error (.number n)

def fileNotFound : ErrorNumber := 2
def notReady : ErrorNumber := 21
def invalidHandle : ErrorNumber := 6

def process? (record : WindowsRecord) (pid : Pid) : Option WindowsProcess := find? record.processes pid

def ofHandle (record : WindowsRecord) : ProcessHandle → WindowsProcess
  | .current => (record.process? (-1)).getD {}
  | .opened pid => (record.process? pid).getD {}

def joined (texts : List (List UInt16)) : List UInt16 := texts.flatMap fun t => t ++ [0]

def socketTable (tables : List (Nat × Except ReturnCode NativeRecord)) (family room : Nat) :
    RoomReply ReturnCode Bytes :=
  match find? tables family with
  | none => .filled []
  | some (.error 122) => .tooSmall room
  | some (.error code) => .failed code
  | some (.ok r) => if r.status ≠ 0 then .failed (r.status % 256) else r.whole room

def counterStep (record : WindowsRecord) (name : String) : Except ReturnCode Unit :=
  match find? record.counterFailures name with
  | none | some 0 => .ok ()
  | some code => .error code

def defaultValue : Float := 99.0

def ofProcess {α : Type} (record : WindowsRecord) (pid : Pid) (name : String)
    (answer : WindowsProcess → Except ErrorNumber α) : Except IoError α :=
  record.answered name (answer ((record.process? pid).getD {}))

def sessionPart {α : Type} (record : WindowsRecord) (id : Nat) (part : SessionRecord → Option α) : Option α :=
  if (find? record.failures "WTSQuerySessionInformationW").isSome then none
  else (record.sessions.find? fun s => s.id == id).bind part

/-- Answers, given the number that the last failure left, which calls that fail without one of their own keep. -/
def answer (record : WindowsRecord) (lastError : ErrorNumber) : (c : WindowsCall) → c.Answer
  | .system cls room =>
    match find? record.tables cls with
    | some table => table.reply room
    | none => { status := 0xC0000002 }
  | .systemTimes => record.answered "GetSystemTimes" (.ok record.times)
  | .processorCount =>
    record.answered "GetActiveProcessorCount" (if record.processors = 0 then .error lastError else .ok record.processors)
  | .processorCores room =>
    match find? record.failures "GetLogicalProcessorInformationEx" with
    | some 122 => .tooSmall room
    | some n => .failed (.number n)
    | none => record.cores.whole room
  | .processorPower room => record.power.reply room
  | .memoryStatus => record.answered "GlobalMemoryStatusEx" (.ok record.memory)
  | .pageSize => record.pageSize
  | .uptime => record.uptime
  | .powerStatus => record.answered "GetSystemPowerStatus" (.ok record.battery)
  | .sessions => record.answered "WTSEnumerateSessionsW" (.ok (record.sessions.map SessionRecord.id))
  | .sessionUser id => record.sessionPart id SessionRecord.user
  | .sessionClient id => record.sessionPart id SessionRecord.client
  | .sessionInfo id => record.sessionPart id SessionRecord.info
  | .driveStrings room =>
    let units := joined record.driveNames
    record.answered "GetLogicalDriveStringsW"
      (if units.isEmpty || units.length > room then .error lastError else .ok units)
  | .driveType root => ((find? record.drives root).map DriveRecord.type).getD 0
  | .volume root =>
    record.answered "GetVolumeInformationW" (match (find? record.drives root).bind DriveRecord.volume with
      | some volume => .ok volume
      | none => .error notReady)
  | .driveDevices drive room =>
    record.answered "QueryDosDeviceW" (match find? record.devices drive with
      | some names => .ok ((joined names).take room)
      | none => .error fileNotFound)
  | .freeSpace _ => record.answered "GetDiskFreeSpaceExW" (.ok record.space)
  | .openDisk number =>
    record.answered "CreateFileW" (match find? record.disks number with
      | none => .error fileNotFound
      | some (.error n) => .error n
      | some (.ok _) => .ok ())
  | .diskPerformance number room =>
    record.answered "DeviceIoControl" (match find? record.disks number with
      | some (.ok (.ok bytes)) => .ok (bytes.take room)
      | some (.ok (.error n)) => .error n
      | _ => .error fileNotFound)
  | .adapters room =>
    match record.adapters with
    | .error 111 => .tooSmall room
    | .error code => .failed code
    | .ok adapters =>
      if room < record.adaptersRoom then .tooSmall record.adaptersRoom
      else if adapters.isEmpty then .failed 232
      else .filled adapters
  | .adapterTraffic id =>
    match find? record.traffics id with
    | some traffic => traffic
    | none => .error 2
  | .tcpTable family room => socketTable record.tcpTables family room
  | .udpTable family room => socketTable record.udpTables family room
  | .openProcess pid _ =>
    record.answered "OpenProcess" (match record.process? pid with
      | none => .error WindowsProcess.pastLast
      | some p => match p.openFailure with
        | some n => .error n
        | none => .ok ())
  | .exitCode pid => record.ofProcess pid "GetExitCodeProcess" fun p => .ok p.exitCode
  | .imageName pid room => record.ofProcess pid "QueryFullProcessImageNameW" fun p =>
    if p.image.length ≥ room then .error WindowsCall.insufficientBuffer else .ok p.image
  | .commandLine pid room => ((record.process? pid).getD {}).command.reply room
  | .environmentBlock pid => ((record.process? pid).getD {}).environmentBlock
  | .readMemory pid address size =>
    match find? record.failures "ReadProcessMemory" with
    | some n => .error (.number n)
    | none => ((record.process? pid).getD {}).read address size
  | .pages pid address => record.ofProcess pid "VirtualQueryEx" fun p =>
    match p.range? address with
    | some (range, _) => .ok range
    | none => .error WindowsProcess.pastLast
  | .mappedFile pid address room => record.ofProcess pid "GetMappedFileNameW" fun p =>
    match p.range? address with
    | some (_, path) => if path.isEmpty then .error lastError else .ok (path.take room)
    | none => .error lastError
  | .processTimes pid => record.ofProcess pid "GetProcessTimes" fun p => .ok p.times
  | .memoryCounters handle => record.answered "GetProcessMemoryInfo" (.ok (record.ofHandle handle).memory)
  | .workingSet handle room =>
    match find? record.failures "QueryWorkingSet" with
    | some n => if n = WindowsCall.badLength then .tooSmall 0 else .failed (.number n)
    | none =>
      match (record.ofHandle handle).workingSet with
      | .growing count => .tooSmall count
      | .blocks blocks count =>
        let told := count.getD blocks.length
        if blocks.length > room then .tooSmall told else .filled { count := told, blocks }
  | .transfers pid => record.ofProcess pid "GetProcessIoCounters" fun p => .ok p.transfers
  | .handleCount pid => record.ofProcess pid "GetProcessHandleCount" fun p => .ok p.handles
  | .priorityClass pid => record.ofProcess pid "GetPriorityClass" fun p =>
    if p.priority = 0 then .error lastError else .ok p.priority
  | .setPriorityClass .. => record.answered "SetPriorityClass" (.ok ())
  | .affinityMasks pid => record.ofProcess pid "GetProcessAffinityMask" fun p => .ok p.affinity
  | .setAffinityMask .. => record.answered "SetProcessAffinityMask" (.ok ())
  | .terminate .. => record.answered "TerminateProcess" (.ok ())
  | .suspend pid => ((record.process? pid).getD {}).control
  | .resume pid => ((record.process? pid).getD {}).control
  | .duplicate _ handle =>
    record.answered "DuplicateHandle" (if (find? record.handles handle).isSome then .ok () else .error invalidHandle)
  | .startThread => record.answered "CreateThread" (.ok ())
  | .fileType handle => ((find? record.handles handle).getD {}).type
  | .fileAttributes handle =>
    record.answered "GetFileInformationByHandle" (.ok ((find? record.handles handle).getD {}).attributes)
  | .finalPath handle _ =>
    record.answered "GetFinalPathNameByHandleW" (.ok ((find? record.handles handle).getD {}).path)
  | .awaitThread handle _ =>
    !((find? record.handles handle).getD {}).hangs && (find? record.failures "WaitForSingleObject").isNone
  | .terminateThread => ()
  | .openCounters => record.counterStep "PdhOpenQueryW"
  | .addCounter _ => record.counterStep "PdhAddEnglishCounterW"
  | .collectCounters => record.counterStep "PdhCollectQueryData"
  | .counterValue =>
    if (find? record.counterFailures "PdhGetFormattedCounterValue").any (· ≠ 0) then none
    else record.upcoming.headD (some defaultValue)
  | .createEvent => record.answered "CreateEventW" (.ok ())
  | .collectEvery _ => record.counterStep "PdhCollectQueryDataEx"
  | .registerWait => record.answered "RegisterWaitForSingleObject" (.ok ())
  | .collectedValues => record.collected

/-- The record after a call: values of the counter come one by one when they are asked for, and all that are left
once they are waited for. -/
def after (record : WindowsRecord) : WindowsCall → WindowsRecord
  | .counterValue => { record with upcoming := record.upcoming.drop 1 }
  | .registerWait =>
    if (find? record.failures "RegisterWaitForSingleObject").isSome then record
    else { record with upcoming := [], collected := record.collected ++ record.upcoming }
  | .collectedValues => { record with collected := [] }
  | _ => record

def note : WindowsCall → Option Json
  | .suspend pid => line "suspend" [.int pid]
  | .resume pid => line "resume" [.int pid]
  | .setPriorityClass pid cls => line "priority" [.int pid, .nat cls]
  | .setAffinityMask pid mask => line "affinity" [.int pid, .nat mask]
  | .terminate pid code => line "terminate" [.int pid, .nat code]
  | .freeSpace path => line "free_space" [.text (String.ofList (path.toList.takeWhile (· ≠ '\x00')))]
  | .terminateThread => line "terminate_thread" []
  | .addCounter path => line "counter" [.text path]
  | .collectEvery seconds => line "sample_every" [.nat seconds]
  | _ => none
where
  line (name : String) (rest : List Json) : Option Json := some (.list (.text name :: rest))

end WindowsRecord
end HostProbe
