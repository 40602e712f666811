import HostProbe.Host.Windows
import HostProbe.Recording.Members
import HostProbe.Word

/-! Recorded answers of a Windows kernel. -/
namespace HostProbe.Recording

def wide : Json → List UInt16
  | .text s => Utf16.encode s.toList
  | j => (j.items.filterMap Json.nat?).map UInt16.ofNat

def wordItem (bits : Nat) (j : Json) (index : Nat) : Nat := Word.ofInt bits ((j.item index).int?.getD 0)

def member (bits : Nat) (j : Json) (key : String) : Nat := Word.ofInt bits (j.intAt key)

def ticksItem (j : Json) (index : Nat) : Int := Word.toInt 64 (wordItem 64 j index)

def native (j : Json) : NativeRecord where
  status := member 32 j "status"
  length := (j.get "needed").nat?
  bytes := TableRecord.relocate TableRecord.bufferAddress (j.natsAt "fixups")
    (hexBytes (j.textAt "hex") ++ List.replicate (j.natAt "zeros") 0)

def orCode {α : Type} (read : Json → α) : Json → Except ReturnCode α
  | .int code => .error (Word.ofInt 32 code)
  | j => .ok (read j)

def numbered {α : Type} (j : Json) (read : Json → α) : List (Nat × α) :=
  j.members.filterMap fun (key, value) => key.toNat?.map fun n => (n, read value)

def workingSetRecord (j : Json) : WorkingSetRecord :=
  match j, j.get? "grow", j.get? "rep" with
  | .object _, some count, _ => .growing (count.nat?.getD 0)
  | .object _, none, some piece =>
    .blocks (List.replicate ((piece.item 1).nat?.getD 0) (wordItem 64 piece 0)) ((j.get "count").nat?)
  | j, _, _ => .blocks (j.items.map fun n => Word.ofInt 64 (n.int?.getD 0)) none

def segment (j : Json) : Segment where
  address := wordItem 64 j 0
  bytes := hexBytes ((j.item 1).text?.getD "")

def pageRange (j : Json) : PageRange × List UInt16 :=
  ({ base := wordItem 64 j 0, size := wordItem 64 j 1, state := wordItem 32 j 2, type := wordItem 32 j 3
     protection := wordItem 32 j 4 }, wide (j.item 5))

def windowsProcess (j : Json) : WindowsProcess :=
  let times := j.get "times"
  let memory := j.get "memory"
  let io := j.get "io"
  let affinity := j.get "affinity"
  { openFailure := (j.get "open").int?
    exitCode := Word.ofInt 32 (j.intAt "exit" 259)
    image := wide (j.get "image")
    command := native (j.get "command")
    times := { created := ticksItem times 0, kernel := ticksItem times 1, user := ticksItem times 2 }
    memory := {
      workingSet := wordItem 64 memory 0, privateUsage := wordItem 64 memory 1, faults := wordItem 32 memory 2
      peak := wordItem 64 memory 3 }
    transfers := {
      reads := wordItem 64 io 0, writes := wordItem 64 io 1, readBytes := wordItem 64 io 2
      writtenBytes := wordItem 64 io 3 }
    handles := member 32 j "handles"
    priority := member 32 j "priority"
    affinity := (wordItem 64 affinity 0, wordItem 64 affinity 1)
    workingSet := workingSetRecord (j.get "working_set")
    environmentBlock := match member 32 j "peb_status" with
      | 0 => .ok (member 64 j "peb")
      | status => if status.testBit 31 then .error status else .ok (member 64 j "peb")
    segments := (j.itemsAt "segments").map segment
    ranges := (j.itemsAt "regions").map pageRange
    control := member 32 j "control" }

def sessionRecord (j : Json) : SessionRecord where
  id := member 32 j "id"
  user := match j.get "user" with
    | .null => none
    | user => some (wide user)
  client := match j.get "client" with
    | .null => none
    | client =>
      if j.holds "short" then none
      else some (wordItem 32 client 0, (padded 20 (hexBytes ((client.item 1).text?.getD ""))).take 20)
  info := match j.get "info" with
    | .null => none
    | info => if j.holds "short" then none else some (ticksItem info 0, (wide (info.item 1)).take 32)

def driveRecord (j : Json) : DriveRecord where
  type := member 32 j "type"
  volume := match j.get "fs" with
    | .null => none
    | name => some (member 32 j "flags", (wide name).take 64)

def diskRecord : Json → Except ErrorNumber (Except ErrorNumber Bytes)
  | .int n => .error n
  | j => .ok (answered bytesOf j)

def adapterEntry (j : Json) : AdapterEntry :=
  let hardware := hexBytes (j.textAt "mac")
  let length := min (j.natAt "mac_len" hardware.length) 8
  { name := wide (j.get "name")
    hardware := (padded 8 hardware).take length
    mtu := member 32 j "mtu"
    type := member 32 j "type"
    status := Word.toInt 32 (member 32 j "status")
    speed := member 64 j "speed"
    id := member 64 j "luid"
    addresses := (j.itemsAt "addresses").map fun a => (hexBytes ((a.item 0).text?.getD ""), wordItem 8 a 1) }

def adapterTraffic (j : Json) : AdapterTraffic :=
  let count := wordItem 64 j
  { outBytes := count 0, inBytes := count 1, outUnicast := count 2, outOther := count 3, inUnicast := count 4
    inOther := count 5, inErrors := count 6, outErrors := count 7, inDrops := count 8, outDrops := count 9 }

def handleRecord (j : Json) : HandleRecord where
  path := wide (j.get "path")
  type := Word.ofInt 32 (j.intAt "type" 1)
  attributes := member 32 j "attributes"
  hangs := j.holds "hang"

def socketTables (j : Json) (protocol : String) : List (Nat × Except ReturnCode NativeRecord) :=
  [2, 23].filterMap fun family => (j.get? s!"{protocol}{family}").map fun table => (family, orCode native table)

def counterValue : Json → Option Float
  | .object _ => none
  | j => j.real?

def windowsRecord (j : Json) : WindowsRecord :=
  let times := j.get "times"
  let memory := j.get "memory"
  let battery := j.get "battery"
  let space := j.get "space"
  { failures := (j.get "fail").members.filterMap fun (name, n) => n.int?.map fun n => (name, n)
    tables := numbered (j.get "system") native
    processes := (j.get "processes").members.filterMap fun (pid, p) =>
      pid.toInt?.map fun pid => (pid, windowsProcess p)
    pageSize := Word.ofInt 32 (j.intAt "page_size" 4096)
    times := (ticksItem times 0, ticksItem times 1, ticksItem times 2)
    processors := Word.ofInt 32 (j.intAt "cpus" 1)
    cores := native (j.get "cores")
    power := native (j.get "power")
    memory := {
      totalPhysical := wordItem 64 memory 0, availablePhysical := wordItem 64 memory 1
      totalCommit := wordItem 64 memory 2, availableCommit := wordItem 64 memory 3 }
    uptime := member 64 j "uptime_ms"
    battery := {
      line := wordItem 8 battery 0, flags := wordItem 8 battery 1, percent := wordItem 8 battery 2
      left := wordItem 32 battery 3 }
    sessions := (j.itemsAt "sessions").map sessionRecord
    driveNames := (j.itemsAt "drive_letters").map wide
    drives := (j.get "drives").members.map fun (root, drive) => (root, driveRecord drive)
    devices := (j.get "devices").members.map fun (drive, names) => (drive, names.items.map wide)
    space := (wordItem 64 space 0, wordItem 64 space 1, wordItem 64 space 2)
    disks := numbered (j.get "disks") diskRecord
    adapters := orCode (fun list => list.items.map adapterEntry) (j.get "adapters")
    adaptersRoom := j.natAt "adapters_size"
    traffics := numbered (j.get "if_rows") (orCode adapterTraffic)
    tcpTables := socketTables (j.get "tables") "tcp"
    udpTables := socketTables (j.get "tables") "udp"
    handles := numbered (j.get "files") handleRecord
    counterFailures := (j.get "pdh").members.filterMap fun (name, code) =>
      code.int?.map fun code => (name, Word.ofInt 32 code)
    upcoming := (j.itemsAt "queue").map counterValue }

end HostProbe.Recording
