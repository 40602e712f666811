import HostProbe.Program

/-! The numbers that failing calls leave behind for whoever asks for the last failure. Statuses, codes and results
that calls return leave none. -/
namespace HostProbe

def leftNumber? {α : Type} : Except IoError α → Option ErrorNumber
  | .error cause => cause.number?
  | .ok _ => none

namespace FileCall

def left? : (c : FileCall) → c.Answer → Option ErrorNumber
  | read _, a => leftNumber? a
  | list _, a => leftNumber? a
  | readLink _, a => leftNumber? a
  | info _, a => leftNumber? a
  | linkInfo _, a => leftNumber? a
  | openFile _, a => leftNumber? a
  | readAt .., a => leftNumber? a

end FileCall

namespace PosixCall

/-- A priority may be negative, so asking for it clears the number. Volumes are asked for on a worker, which keeps its
number to itself. -/
def left? : (c : PosixCall) → c.Answer → Option ErrorNumber
  | kill .., a => leftNumber? a
  | getPriority .., a => some ((leftNumber? a).getD 0)
  | setPriority .., a => leftNumber? a
  | getAffinity .., a => leftNumber? a
  | setAffinity .., a => leftNumber? a
  | getCpuSet .., a => leftNumber? a
  | setCpuSet .., a => leftNumber? a
  | resourceLimit .., a => leftNumber? a
  | interfaces, a => leftNumber? a
  | controlSocket, a => leftNumber? a
  | linkMtu _, a => leftNumber? a
  | linkSettings _, a => leftNumber? a
  | linkMedia _, a => leftNumber? a
  | loadAverages, a => leftNumber? a
  | _, _ => none

end PosixCall

def KstatCall.left? : (c : KstatCall) → c.Answer → Option ErrorNumber
  | chain, a => leftNumber? a
  | read _, a => leftNumber? a

def SysctlCall.left? : (c : SysctlCall) → c.Answer → Option ErrorNumber
  | size _, a => leftNumber? a
  | read .., a => leftNumber? a
  | readNamed .., a => leftNumber? a
  | resolve _, a => leftNumber? a

def MountCall.left? : (c : MountCall) → c.Answer → Option ErrorNumber
  | count, a => leftNumber? a
  | list _, a => leftNumber? a

def MachCall.left? : (c : MachCall) → c.Answer → Option ErrorNumber
  | process .., a => leftNumber? a
  | processSize .., a => leftNumber? a
  | descriptor .., a => leftNumber? a
  | path .., a => leftNumber? a
  | name .., a => leftNumber? a
  | usage .., a => leftNumber? a
  | _, _ => none

namespace WindowsCall

/-- Numbers of the failures that stand for too little room. -/
def insufficientBuffer : ErrorNumber := 122
def badLength : ErrorNumber := 24

def leftByRoom? {α : Type} (lacking : ErrorNumber) : RoomReply IoError α → Option ErrorNumber
  | .filled _ => none
  | .tooSmall _ => some lacking
  | .failed cause => cause.number?

/-- Space is asked for on a worker, which keeps its number to itself. -/
def left? : (c : WindowsCall) → c.Answer → Option ErrorNumber
  | systemTimes, a => leftNumber? a
  | processorCount, a => leftNumber? a
  | processorCores _, a => leftByRoom? insufficientBuffer a
  | memoryStatus, a => leftNumber? a
  | powerStatus, a => leftNumber? a
  | sessions, a => leftNumber? a
  | driveStrings _, a => leftNumber? a
  | volume _, a => leftNumber? a
  | driveDevices .., a => leftNumber? a
  | openDisk _, a => leftNumber? a
  | diskPerformance .., a => leftNumber? a
  | openProcess .., a => leftNumber? a
  | exitCode _, a => leftNumber? a
  | imageName .., a => leftNumber? a
  | readMemory .., a => leftNumber? a
  | pages .., a => leftNumber? a
  | mappedFile .., a => leftNumber? a
  | processTimes _, a => leftNumber? a
  | memoryCounters _, a => leftNumber? a
  | workingSet .., a => leftByRoom? badLength a
  | transfers _, a => leftNumber? a
  | handleCount _, a => leftNumber? a
  | priorityClass _, a => leftNumber? a
  | setPriorityClass .., a => leftNumber? a
  | affinityMasks _, a => leftNumber? a
  | setAffinityMask .., a => leftNumber? a
  | terminate .., a => leftNumber? a
  | duplicate .., a => leftNumber? a
  | startThread, a => leftNumber? a
  | fileAttributes _, a => leftNumber? a
  | finalPath .., a => leftNumber? a
  | createEvent, a => leftNumber? a
  | registerWait, a => leftNumber? a
  | _, _ => none

end WindowsCall

def Call.left? : (c : Call) → c.Answer → Option ErrorNumber
  | file c, a => c.left? a
  | posix c, a => c.left? a
  | kstat c, a => c.left? a
  | sysctl c, a => c.left? a
  | mount c, a => c.left? a
  | mach c, a => c.left? a
  | windows c, a => c.left? a
  | swap _, _ | team _, _ => none

end HostProbe
