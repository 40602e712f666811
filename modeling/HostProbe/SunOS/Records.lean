import HostProbe.RecordLayout
import HostProbe.Record.Process

/-! Records about a process that the process file system holds in binary. -/
namespace HostProbe.SunOS

structure ProcessInfo where
  threads : Int
  ppid : Pid
  sizeKiB : Nat
  residentKiB : Nat
  terminal : Nat
  startTime : Float
  name : String
  /-- Arguments in one string, cut to its field. -/
  arguments : String
  argumentCount : Int
  argumentVector : Nat
  environmentVector : Nat
  /-- Whether pointers of the process have four bytes. -/
  narrowPointers : Bool
  state : Int
  deriving Inhabited

namespace ProcessInfo

def layout : RecordLayout ProcessInfo where
  size := 360
  read b := {
    threads := Bytes.intAt b 4 4, ppid := Bytes.intAt b 12 4, sizeKiB := Bytes.natAt b 48 8
    residentKiB := Bytes.natAt b 56 8, terminal := Bytes.natAt b 72 8, startTime := Bytes.timeAt b 88 8
    name := Bytes.stringAt b 136 16, arguments := Bytes.stringAt b 152 80, argumentCount := Bytes.intAt b 236 4
    argumentVector := Bytes.natAt b 240 8, environmentVector := Bytes.natAt b 248 8
    narrowPointers := Bytes.natAt b 256 1 == 1, state := Bytes.intAt b 313 1 }

def noTerminal : Nat := 0xffffffffffffffff

def isZombie (info : ProcessInfo) : Bool := info.state == 3

def pointerSize (info : ProcessInfo) : Nat := if info.narrowPointers then 4 else 8

def shortArguments (info : ProcessInfo) : List String := (Text.words info.arguments.toList).map String.ofList

end ProcessInfo

/-- State of a thread as a state of its process; unknown numbers count as sleeping. -/
def statusOfState : Int → ProcessStatus
  | 2 | 6 => .running
  | 3 => .zombie
  | 4 => .stopped
  | 5 => .idle
  | 7 => .waiting
  | _ => .sleeping

structure Usage where
  thread : Int
  user : Float
  system : Float
  minorFaults : Nat
  majorFaults : Nat
  blocksRead : Nat
  blocksWritten : Nat
  voluntarySwitches : Nat
  involuntarySwitches : Nat
  /-- Characters read and written together. -/
  characters : Nat
  deriving Inhabited

def Usage.layout : RecordLayout Usage where
  size := 504
  read b := {
    thread := Bytes.intAt b 0 4, user := Bytes.timeAt b 72 8, system := Bytes.timeAt b 88 8
    minorFaults := Bytes.natAt b 328 8, majorFaults := Bytes.natAt b 336 8, blocksRead := Bytes.natAt b 352 8
    blocksWritten := Bytes.natAt b 360 8, voluntarySwitches := Bytes.natAt b 392 8
    involuntarySwitches := Bytes.natAt b 400 8, characters := Bytes.natAt b 416 8 }

structure Credentials where
  user : ProcessIds
  group : ProcessIds
  deriving Inhabited

def Credentials.layout : RecordLayout Credentials where
  size := 28
  read b :=
    let ids (offset : Nat) : ProcessIds := {
      effective := Bytes.natAt b offset 4, real := Bytes.natAt b (offset + 4) 4
      saved := Bytes.natAt b (offset + 8) 4 }
    { user := ids 0, group := ids 12 }

end HostProbe.SunOS
