import HostProbe.Json
import HostProbe.Number.Real

/-! What is reported about processors, load, memory, file systems and disks. -/
namespace HostProbe

/-! ### Processors -/

/-- Seconds spent in each mode; a mode the system does not count is absent. -/
structure CpuTimes where
  user : Float := 0.0
  system : Float := 0.0
  idle : Float := 0.0
  nice : Option Float := none
  iowait : Option Float := none
  irq : Option Float := none
  softirq : Option Float := none
  steal : Option Float := none
  guest : Option Float := none
  guestNice : Option Float := none
  interrupt : Option Float := none
  dpc : Option Float := none
  deriving Inhabited

def CpuTimes.toJson (t : CpuTimes) : Json :=
  .record [.field "user" (.real t.user), .field "system" (.real t.system), .field "idle" (.real t.idle),
    .field? "nice" .real t.nice, .field? "iowait" .real t.iowait, .field? "irq" .real t.irq,
    .field? "softirq" .real t.softirq, .field? "steal" .real t.steal, .field? "guest" .real t.guest,
    .field? "guest_nice" .real t.guestNice, .field? "interrupt" .real t.interrupt, .field? "dpc" .real t.dpc]

structure CpuStats where
  contextSwitches : Nat := 0
  interrupts : Nat := 0
  softInterrupts : Nat := 0
  systemCalls : Nat := 0
  deriving Repr, DecidableEq, Inhabited

def CpuStats.toJson (s : CpuStats) : Json :=
  .record [.field "ctx_switches" (.nat s.contextSwitches), .field "interrupts" (.nat s.interrupts),
    .field "soft_interrupts" (.nat s.softInterrupts), .field "syscalls" (.nat s.systemCalls)]

structure CpuFrequency where
  current : Float := 0.0
  min : Float := 0.0
  max : Float := 0.0
  deriving Inhabited

def CpuFrequency.toJson (f : CpuFrequency) : Json :=
  .record [.field "current" (.real f.current), .field "min" (.real f.min), .field "max" (.real f.max)]

/-- Load over the last one, five and fifteen minutes. -/
structure LoadAverage where
  one : Float := 0.0
  five : Float := 0.0
  fifteen : Float := 0.0
  deriving Inhabited

def LoadAverage.toJson (l : LoadAverage) : Json :=
  .record [.field "one" (.real l.one), .field "five" (.real l.five), .field "fifteen" (.real l.fifteen)]

/-! ### Memory -/

structure VirtualMemory where
  total : Nat := 0
  available : Nat := 0
  used : Nat := 0
  free : Nat := 0
  active : Option Nat := none
  inactive : Option Nat := none
  buffers : Option Nat := none
  cached : Option Nat := none
  shared : Option Nat := none
  slab : Option Nat := none
  wired : Option Nat := none
  deriving Repr, DecidableEq, Inhabited

namespace VirtualMemory

/-- Share of the memory that is not available, in percent; zero where there is none at all. -/
def percent (m : VirtualMemory) : Float :=
  if m.total = 0 then 0.0
  else Real.ofNat (m.total - m.available) / Real.ofNat m.total * 100.0

def toJson (m : VirtualMemory) : Json :=
  .record [.field "total" (.nat m.total), .field "available" (.nat m.available), .field "used" (.nat m.used),
    .field "free" (.nat m.free), .field? "active" .nat m.active, .field? "inactive" .nat m.inactive,
    .field? "buffers" .nat m.buffers, .field? "cached" .nat m.cached, .field? "shared" .nat m.shared,
    .field? "slab" .nat m.slab, .field? "wired" .nat m.wired]

end VirtualMemory

structure SwapMemory where
  total : Nat := 0
  used : Nat := 0
  free : Nat := 0
  swappedIn : Nat := 0
  swappedOut : Nat := 0
  deriving Repr, DecidableEq, Inhabited

def SwapMemory.toJson (m : SwapMemory) : Json :=
  .record [.field "total" (.nat m.total), .field "used" (.nat m.used), .field "free" (.nat m.free),
    .field "sin" (.nat m.swappedIn), .field "sout" (.nat m.swappedOut)]

structure ProcessMemory where
  rss : Nat := 0
  vms : Nat := 0
  shared : Option Nat := none
  text : Option Nat := none
  data : Option Nat := none
  pageFaults : Option Nat := none
  peakRss : Option Nat := none
  deriving Repr, DecidableEq, Inhabited

def ProcessMemory.toJson (m : ProcessMemory) : Json :=
  .record [.field "rss" (.nat m.rss), .field "vms" (.nat m.vms), .field? "shared" .nat m.shared,
    .field? "text" .nat m.text, .field? "data" .nat m.data, .field? "page_faults" .nat m.pageFaults,
    .field? "peak_rss" .nat m.peakRss]

structure MemoryFootprint where
  rss : Nat := 0
  pss : Option Nat := none
  uss : Nat := 0
  swap : Option Nat := none
  deriving Repr, DecidableEq, Inhabited

def MemoryFootprint.toJson (m : MemoryFootprint) : Json :=
  .record [.field "rss" (.nat m.rss), .field? "pss" .nat m.pss, .field "uss" (.nat m.uss),
    .field? "swap" .nat m.swap]

structure MemoryMap where
  address : String := ""
  perms : String := ""
  path : String := ""
  size : Nat := 0
  rss : Nat := 0
  pss : Nat := 0
  sharedClean : Nat := 0
  sharedDirty : Nat := 0
  privateClean : Nat := 0
  privateDirty : Nat := 0
  referenced : Nat := 0
  anonymous : Nat := 0
  swap : Nat := 0
  deriving Repr, DecidableEq, Inhabited

def MemoryMap.toJson (m : MemoryMap) : Json :=
  .record [.field "address" (.text m.address), .field "perms" (.text m.perms), .field "path" (.text m.path),
    .field "size" (.nat m.size), .field "rss" (.nat m.rss), .field "pss" (.nat m.pss),
    .field "shared_clean" (.nat m.sharedClean), .field "shared_dirty" (.nat m.sharedDirty),
    .field "private_clean" (.nat m.privateClean), .field "private_dirty" (.nat m.privateDirty),
    .field "referenced" (.nat m.referenced), .field "anonymous" (.nat m.anonymous), .field "swap" (.nat m.swap)]

/-! ### Disks -/

structure Partition where
  device : String
  mountpoint : String
  fstype : String
  opts : String
  deriving Repr, DecidableEq, Inhabited

def Partition.toJson (p : Partition) : Json :=
  .record [.field "device" (.text p.device), .field "mountpoint" (.text p.mountpoint),
    .field "fstype" (.text p.fstype), .field "opts" (.text p.opts)]

structure DiskUsage where
  total : Nat := 0
  used : Nat := 0
  free : Nat := 0
  deriving Repr, DecidableEq, Inhabited

def DiskUsage.toJson (u : DiskUsage) : Json :=
  .record [.field "total" (.nat u.total), .field "used" (.nat u.used), .field "free" (.nat u.free)]

/-- Traffic of a disk; times are in milliseconds. -/
structure DiskIoCounters where
  readCount : Nat := 0
  writeCount : Nat := 0
  readBytes : Nat := 0
  writeBytes : Nat := 0
  readTime : Nat := 0
  writeTime : Nat := 0
  busyTime : Option Nat := none
  deriving Repr, DecidableEq, Inhabited

def DiskIoCounters.toJson (c : DiskIoCounters) : Json :=
  .record [.field "read_count" (.nat c.readCount), .field "write_count" (.nat c.writeCount),
    .field "read_bytes" (.nat c.readBytes), .field "write_bytes" (.nat c.writeBytes),
    .field "read_time" (.nat c.readTime), .field "write_time" (.nat c.writeTime),
    .field? "busy_time" .nat c.busyTime]

end HostProbe
