import HostProbe.Host
import HostProbe.Recording.Members
import HostProbe.Kernel
import HostProbe.Bytes
import HostProbe.Word

/-! Recorded answers to the calls that systems of the Unix family share, and to those about kernel statistics. -/
namespace HostProbe.Recording

def socketAddress (j : Json) : Option Bytes := j.text?.map fun digits => padded 128 (hexBytes digits)

def counterSize (system : Kernel) (key : String) : Nat :=
  match system, key with
  | .macos, _ => 4
  | .freebsd, "mtu" | .openbsd, "mtu" => 4
  | _, _ => 8

def linkCounters (system : Kernel) (j : Json) : LinkCounters :=
  let counter (key : String) : Nat := Word.ofInt (8 * counterSize system key) (j.intAt key)
  { mtu := counter "mtu"
    baudRate := counter "baudrate"
    inPackets := counter "ipackets"
    inErrors := counter "ierrors"
    outPackets := counter "opackets"
    outErrors := counter "oerrors"
    inBytes := counter "ibytes"
    outBytes := counter "obytes"
    inDrops := counter "iqdrops"
    outDrops := counter "oqdrops" }

def interfaceEntry (system : Kernel) (j : Json) : InterfaceEntry where
  name := (j.get "name").text?.map textBytes
  flags := j.natAt "flags"
  address := socketAddress (j.get "addr")
  netmask := socketAddress (j.get "mask")
  other := socketAddress (j.get "other")
  counters := (j.get? "data").map (linkCounters system)

def linkRecord (j : Json) : LinkRecord where
  mtu := answered (fun j => j.int?.getD 0) (j.get "mtu")
  settings := answered (fun j => {
    duplex := (j.item 0).nat?.getD 0, speedLow := (j.item 1).nat?.getD 0
    speedHigh := (j.item 2).nat?.getD 0 }) (j.get "ethtool")
  media := answered (fun j => j.nat?.getD 0) (j.get "media")

def loginEntry (j : Json) : LoginEntry where
  type := j.intAt "type" 7
  user := textBytes (j.textAt "user")
  line := textBytes (j.textAt "line")
  host := textBytes (j.textAt "host")
  seconds := j.intAt "sec"
  microseconds := j.intAt "usec"
  pid := j.intAt "pid"

def signalRecord (j : Json) : SignalRecord where
  alive := j.intsAt "alive"
  denied := j.intsAt "denied"
  failure := (j.get "errno").int?

def volumeBlocks (j : Json) : VolumeBlocks where
  blocks := j.natAt "blocks"
  free := j.natAt "bfree"
  available := j.natAt "bavail"
  fragmentSize := j.natAt "frsize"

def defaultNow : Int × Nat := (1700000000, 0)

def posixRecord (kernel : Json) (system : Kernel) : PosixRecord where
  machine := if system.isMachine then some [0, 1] else none
  signals := (kernel.get? "kill").map signalRecord
  priority := answeredAt kernel "getpriority" fun j => j.int?.getD 0
  setPriority := answeredAt kernel "setpriority" fun _ => ()
  affinity := answeredAt kernel "getaffinity" fun j => j.natsAt "mask"
  setAffinity := answeredAt kernel "setaffinity" fun _ => ()
  limits := answeredAt kernel "prlimit" fun j => (j.natAt "soft", j.natAt "hard")
  volume := answeredAt kernel "statvfs" volumeBlocks
  clockTicks := (kernel.get "sysconf").intAt "clk_tck" 100
  pageSize := (kernel.get "sysconf").intAt "pagesize" 4096
  processors := (kernel.get "sysconf").intAt "nproc" 1
  now := match kernel.intsAt "now" with
    | [seconds, nanoseconds] => (seconds, nanoseconds.toNat)
    | _ => defaultNow
  interfaces := answeredAt kernel "ifaddrs" fun j => j.items.map (interfaceEntry system)
  links := (kernel.get? "links").map fun j => j.members.map fun (name, link) => (name, linkRecord link)
  missingLink := if system.isMachine then ErrorNumber.noDevice else ErrorNumber.noAddress
  controlSocket := (kernel.get? "socket").elim (.ok ()) (answered fun _ => ())
  logins := (kernel.itemsAt "users").map loginEntry
  loadAverages := answeredAt kernel "loadavg" fun j => j.items.filterMap Json.real?
  devices := (kernel.get "devices").members.filterMap fun (number, name) => do
    return (← Integer.word? number.toList, ← name.text?)

def namedValue (j : Json) : Bytes :=
  let value := match j.item 2 with
    | .text s => (textBytes s).take 16
    | value => Bytes.ofNat 8 (Word.ofInt 64 (value.int?.getD 0))
  padded 31 ((textBytes ((j.item 0).text?.getD "")).take 31) ++ [UInt8.ofNat ((j.item 1).nat?.getD 0)]
    ++ padded 16 value

def kstatEntry (id : Nat) (j : Json) : KstatHeader × Except ErrorNumber (Option Bytes) :=
  let cut (key : String) : String := Utf8.toString ((textBytes (j.textAt key)).take 31)
  let header : KstatHeader := {
    id, module := cut "module", instanceNumber := j.intAt "instance", name := cut "name", className := cut "class"
    type := j.natAt "type" 1 }
  let data (j : Json) : Option Bytes :=
    if j.holds "null" then none
    else some ((j.get? "named").elim (bytesOf j) fun named => (named.items.map namedValue).flatten)
  (header, answered data j)

def kstatChain : Json → Except ErrorNumber (List (KstatHeader × Except ErrorNumber (Option Bytes)))
  | .list entries => .ok (entries.zipIdx.map fun (entry, id) => kstatEntry id entry)
  | j => .error (j.intAt "errno" ErrorNumber.noEntry)

end HostProbe.Recording
