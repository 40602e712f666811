import HostProbe.Record.Process
import HostProbe.RecordLayout
import HostProbe.Word

/-! Records about a process that the process file system holds in binary. -/
namespace HostProbe.AIX

structure ProcessInfo where
  threads : Nat
  ppid : Pid
  terminal : Nat
  sizeKiB : Nat
  residentKiB : Nat
  startTime : Float
  argumentCount : Nat
  argumentVector : Nat
  environmentVector : Nat
  name : String
  /-- Arguments in one string, cut to its field. -/
  arguments : String
  state : Char
  deriving Inhabited

/-- State of the letter that the record gives a thread; unknown letters count as sleeping. -/
def statusOfLetter : Char → ProcessStatus
  | 'A' | 'R' | 'O' => .running
  | 'W' => .waiting
  | 'T' => .stopped
  | 'Z' => .zombie
  | 'I' => .idle
  | _ => .sleeping

namespace ProcessInfo

def layout : RecordLayout ProcessInfo where
  size := 368
  read b := {
    threads := Bytes.natAt b 8 4, ppid := Word.toInt 32 (Bytes.natAt b 56 8), terminal := Bytes.natAt b 80 8
    sizeKiB := Bytes.natAt b 96 8, residentKiB := Bytes.natAt b 104 8, startTime := Bytes.timeAt b 112 4
    argumentCount := Bytes.natAt b 148 4, argumentVector := Bytes.natAt b 152 8
    environmentVector := Bytes.natAt b 160 8, name := Bytes.stringAt b 168 16
    arguments := Bytes.stringAt b 184 80, state := Char.ofNat (Bytes.natAt b 358 1) }

def noTerminal : Nat := 0xffffffffffffffff

def status (info : ProcessInfo) : ProcessStatus := statusOfLetter info.state

def isZombie (info : ProcessInfo) : Bool := info.status == .zombie

def shortArguments (info : ProcessInfo) : List String := (Text.words info.arguments.toList).map String.ofList

end ProcessInfo

structure RunState where
  /-- Whether pointers of the process have four bytes. -/
  narrowPointers : Bool
  times : ProcessCpuTimes
  deriving Inhabited

namespace RunState

def layout : RecordLayout RunState where
  size := 184
  read b := {
    narrowPointers := Bytes.natAt b 17 1 == 0
    times := {
      user := Bytes.timeAt b 120 4, system := Bytes.timeAt b 136 4
      childrenUser := some (Bytes.timeAt b 152 4), childrenSystem := some (Bytes.timeAt b 168 4) } }

def pointerSize (state : RunState) : Nat := if state.narrowPointers then 4 else 8

end RunState

structure Credentials where
  user : ProcessIds
  group : ProcessIds
  deriving Inhabited

/-- Identities are kept in wide fields of which the low half counts. -/
def Credentials.layout : RecordLayout Credentials where
  size := 120
  read b :=
    let ids (offset : Nat) : ProcessIds := {
      effective := Bytes.natAt b offset 4, real := Bytes.natAt b (offset + 8) 4
      saved := Bytes.natAt b (offset + 16) 4 }
    { user := ids 0, group := ids 24 }

end HostProbe.AIX
