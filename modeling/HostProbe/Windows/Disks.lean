import HostProbe.Bounded
import HostProbe.Table
import HostProbe.Windows.Native

/-! Drives and disks of a Windows system. -/
namespace HostProbe.Windows

/-- Units that the names of all drives may take, and those of one drive's devices. -/
def driveNamesRoom : Nat := 512
def deviceNamesRoom : Nat := 1024

def drives : Query (List String) := do
  let units ← answered "GetLogicalDriveStringsW"
    (← (Ask.windows (.driveStrings driveNamesRoom) : Program (Except IoError (List UInt16))))
  return splitTexts units

def driveTypeName : Nat → String
  | 1 => "noroot"
  | 2 => "removable"
  | 3 => "fixed"
  | 4 => "remote"
  | 5 => "cdrom"
  | 6 => "ramdisk"
  | _ => "unknown"

def isLasting (type : Nat) : Bool := !([0, 1, 2, 5].contains type)

def readOnlyVolume : Nat := 0x80000

/-- A volume that tells no flags counts as writable. -/
def partitionOptions (flags : Option Nat) (type : Nat) : String :=
  let readOnly := flags.any fun f => f &&& readOnlyVolume != 0
  (if readOnly then "ro," else "rw,") ++ driveTypeName type

def partition (root : String) (type : Nat) : Query Partition := do
  let volume := (← (Ask.windows (.volume root) : Program (Except IoError (Nat × List UInt16)))).toOption
  return {
    device := root, mountpoint := root, fstype := volume.elim "" fun (_, name) => wideText name
    opts := partitionOptions (volume.map (·.1)) type }

def partitions (all : Bool) : Query (List Partition) := do
  let found ← (← drives).mapM fun root => do
    let type ← (Ask.windows (.driveType root) : Program Nat)
    if all || isLasting type then return some (← partition root type) else return none
  return found.filterMap id

/-- Space on the volume of a path. The call runs on a worker, since a network drive may block it. -/
def diskUsage (path : String) : Query DiskUsage :=
  onWorker "GetDiskFreeSpaceExW" do
    let (available, total, free) ← answered "GetDiskFreeSpaceExW"
      (← (Ask.windows (.freeSpace path) : Program (Except IoError (Nat × Nat × Nat))))
    return { total, used := total - free, free := available }

/-! ### Disks -/

/-- Disks are numbered from zero; higher numbers are not looked for. -/
def diskLimit : Nat := 32

/-- The counters of a disk; a disk that there is not, or that keeps none, has none. -/
def diskCounters? (number : Nat) : Query (Option DiskIoCounters) := do
  match ← (Ask.windows (.openDisk number) : Program (Except IoError Unit)) with
  | .error _ => return none
  | .ok () =>
    match ← (Ask.windows (.diskPerformance number diskRecordSize) : Program (Except IoError Bytes)) with
    | .error _ => return none
    | .ok b => return some (diskCountersOf b)

def diskIoCounters : Query (Table DiskIoCounters) := do
  let found ← (List.range diskLimit).mapM fun number => do
    return (← diskCounters? number).map fun c => (s!"PhysicalDrive{number}", c)
  return Table.ofList (found.filterMap id)

/-! ### Devices of drives -/

def driveOf (root : String) : String := String.ofList (root.toList.reverse.dropWhile (· == '\\')).reverse

def driveDevices : Query (List (String × String)) := do
  let roots := (← drives.answer?).getD []
  let found ← roots.mapM fun root => do
    let drive := driveOf root
    let units ← (Ask.windows (.driveDevices drive deviceNamesRoom) : Program (Except IoError (List UInt16)))
    return ((splitTexts (units.toOption.getD [])).head?).map fun device => (device, drive)
  return found.filterMap id

def behindDevice? (path device : Text) : Option Text :=
  if device.isPrefixOf path then
    let rest := path.drop device.length
    if rest.isEmpty || rest.head? = some '\\' then some rest else none
  else none

/-- A path with the first device that it leads into written as its drive; other paths stay. -/
def drivePath (path : String) (devices : List (String × String)) : String :=
  (devices.findSome? fun (device, drive) =>
    (behindDevice? path.toList device.toList).map fun rest => drive ++ String.ofList rest).getD path

end HostProbe.Windows
