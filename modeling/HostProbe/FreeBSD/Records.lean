import HostProbe.BSD.Process
import HostProbe.BSD.Network
import HostProbe.Filter
import HostProbe.Record.System
import HostProbe.Table

/-! Records of the kernel's tables. -/
namespace HostProbe.FreeBSD

open BSD

def statusOfNumber : Nat → ProcessStatus
  | 1 => .idle
  | 2 => .running
  | 3 => .sleeping
  | 4 => .stopped
  | 5 => .zombie
  | 7 => .locked
  | _ => .waiting

def processSize : Nat := 1088

def secondsAt (b : Bytes) (offset : Nat) : Float := Sysctl.timeAt b offset 8

/-- Device number of a terminal; both widths of the number for none are known. -/
def terminalOf (number : Nat) : Option Nat :=
  if number = 0xffffffffffffffff || number = 0xffffffff then none else some number

def pidOf (b : Bytes) : Pid := Bytes.intAt b 72 4

/-- Reads the record of a process; use of resources is counted from offset 608, that of children from 752. -/
def readProcess (p : Probe) (b : Bytes) : Outcome ProcessInfo := do
  let count (offset : Nat) : Nat := (Bytes.intAt b offset 8).toNat
  let rss ← p.bytesOfPages (Bytes.intAt b 264 8)
  let text ← p.bytesOfPages (Bytes.intAt b 280 8)
  let data ← p.bytesOfPages (Bytes.intAt b 288 8)
  return {
    pid := pidOf b
    ppid := Bytes.intAt b 76 4
    status := statusOfNumber (Bytes.natAt b 388 1)
    name := Bytes.stringAt b 447 20
    users := { real := Bytes.natAt b 172 4, effective := Bytes.natAt b 168 4, saved := Bytes.natAt b 176 4 }
    groups := { real := Bytes.natAt b 180 4, effective := Bytes.natAt b 192 4, saved := Bytes.natAt b 184 4 }
    terminal := terminalOf (Bytes.natAt b 560 8)
    createTime := secondsAt b 336
    times := {
      user := secondsAt b 608, system := secondsAt b 624, childrenUser := some (secondsAt b 752)
      childrenSystem := some (secondsAt b 768) }
    memory := { rss, vms := Bytes.natAt b 256 8, text, data, pageFaults := some (count 680) }
    threads := some (Bytes.intAt b 596 4).toNat
    switches := { voluntary := count 736, involuntary := count 744 }
    io := { readCount := count 696, writeCount := count 704 } }

def readThread (b : Bytes) : ThreadTimes where
  id := Word.ofInt 64 (Bytes.intAt b 600 4)
  user := secondsAt b 608
  system := secondsAt b 624

/-! ### Open files -/

/-- A record of an open file; fields past its end are missing. -/
structure FileRecord where
  bytes : Bytes
  deriving Repr, DecidableEq, Inhabited

namespace FileRecord

/-- The records one after the other, each with its size in front; a size that is not positive ends them. -/
def split (bytes : Bytes) : List FileRecord := go bytes.length bytes []
where
  go : Nat → Bytes → List FileRecord → List FileRecord
    | 0, _, found => found.reverse
    | fuel + 1, rest, found =>
      match Bytes.slice? rest 0 4 with
      | none => found.reverse
      | some field =>
        let size := Bytes.intAt field 0 4
        if size ≤ 0 then found.reverse
        else go fuel (rest.drop size.toNat) (⟨rest.take size.toNat⟩ :: found)

/-- A number of four bytes; a missing one is zero. -/
def int (r : FileRecord) (offset : Nat) : Int := ((Bytes.slice? r.bytes offset 4).map fun b => Bytes.intAt b 0 4).getD 0

def fd (r : FileRecord) : Int := r.int 8

def path (r : FileRecord) : String := Bytes.cString (r.bytes.drop 368)

/-- Bytes of a socket address, which may be cut at the end of the record. -/
def socketAddress (r : FileRecord) (offset : Nat) : Bytes := (r.bytes.drop offset).take 128

/-- Address of the socket's control block in the kernel, by which its state is found. -/
def controlBlock? (r : FileRecord) : Option Nat := (Bytes.slice? r.bytes 304 8).map Bytes.toNat

/-- Descriptors are numbered from zero; negative numbers stand for the working directory and the like. -/
def isDescriptor (r : FileRecord) : Bool := r.fd ≥ 0

def isRegularFile (r : FileRecord) : Bool := r.int 4 == 1 && r.int 32 == 1

def isSocket (r : FileRecord) : Bool := r.int 4 == 2

def isWorkingDirectory (r : FileRecord) : Bool := r.fd == -1

end FileRecord

def openFilesIn (bytes : Bytes) : List OpenFile :=
  (FileRecord.split bytes).filterMap fun r =>
    if r.isDescriptor && r.isRegularFile && !r.path.isEmpty then some { path := r.path, fd := r.fd } else none

/-! ### Connections -/

def inet6 : Nat := 28

/-- States of connections by the addresses of their control blocks. A table begins with a header that tells its own
size; each entry tells its size, too, and one no larger than the header ends the table. -/
def tcpStates (bytes : Bytes) : Outcome (List (Nat × Int)) :=
  match Bytes.slice? bytes 0 8 with
  | none => .ok []
  | some field =>
    let header := Bytes.toNat field
    go header bytes.length header (bytes.drop header) []
where
  go (header : Nat) : Nat → Nat → Bytes → List (Nat × Int) → Outcome (List (Nat × Int))
    | 0, _, _, found => .ok found
    | fuel + 1, offset, rest, found =>
      match Bytes.slice? rest 0 8 with
      | none => .ok found
      | some field => do
        let size := Bytes.toNat field
        if size ≤ header then return found
        let next ← Word.add offset size
        match Bytes.slice? rest 0 size with
        | none => return found
        | some entry =>
          let inner := ((Bytes.slice? entry 8 8).map Bytes.toNat).getD 0
          let controlBlock := (Bytes.slice? entry 32 8).map Bytes.toNat
          let stateOffset ← Word.add (← Word.add 8 inner) 160
          let state := (Bytes.slice? entry stateOffset 4).map fun b => Bytes.intAt b 0 4
          let found := match controlBlock, state with
            | some controlBlock, some state => (controlBlock, state) :: found
            | _, _ => found
          go header fuel next (rest.drop size) found

def connectionOf? (pid : Pid) (filter : ConnectionFilter) (states : List (Nat × Int)) (r : FileRecord) :
    Option Connection := do
  let family ← familyOf? inet6 (r.int 36)
  let kind ← socketTypeOf? (r.int 40)
  if !filter.selects family kind then none
  let remote := (address? inet6 (r.socketAddress 176)).filter fun a => !isUnset a
  let state := r.controlBlock?.bind fun c => (states.find? fun s => s.1 == c).map (·.2)
  let status : ConnectionStatus :=
    if kind == .stream && family != .unix then (state.map ConnectionStatus.ofBsdState).getD .none else .none
  return {
    fd := r.fd, family, kind, localEnd := address? inet6 (r.socketAddress 48), remoteEnd := remote, status
    pid := some pid }

def connectionsIn (bytes : Bytes) (pid : Pid) (filter : ConnectionFilter) (states : List (Nat × Int)) :
    List Connection :=
  ((FileRecord.split bytes).filter fun r => r.isDescriptor && r.isSocket).filterMap (connectionOf? pid filter states)

/-! ### Disks -/

/-- Milliseconds of a time held as seconds and a binary fraction of a second. -/
def millisecondsAt (b : Bytes) (offset : Nat) : Outcome Nat := do
  let fraction := ((Bytes.natAt b (offset + 8) 8 >>> 32) * 1000) >>> 32
  Word.add (← Word.mul (Bytes.intAt b offset 8).toNat 1000) fraction

def readDisk (b : Bytes) : Outcome (String × DiskIoCounters) := do
  let counters : DiskIoCounters := {
    readCount := Bytes.natAt b 104 8, writeCount := Bytes.natAt b 112 8, readBytes := Bytes.natAt b 72 8
    writeBytes := Bytes.natAt b 80 8, readTime := ← millisecondsAt b 144, writeTime := ← millisecondsAt b 160
    busyTime := some (← millisecondsAt b 192) }
  return (Bytes.stringAt b 44 16 ++ toString (Bytes.intAt b 60 4), counters)

/-- Counters of every disk; a generation number comes before them. -/
def readDisks (bytes : Bytes) : Outcome (Table DiskIoCounters) := do
  return Table.ofList (← (Bytes.records 288 (bytes.drop 8)).mapM readDisk)

end HostProbe.FreeBSD
