import HostProbe.Error
import HostProbe.Text.Utf8

/-! Questions that kernels of one kind answer: to tables that are addressed by numbers or names, and to what goes with
them; to the chain of kernel statistics; to tables of processes and of memory behind ports; and about processes that
are teams of threads. -/
namespace HostProbe

/-! ### Tables -/

structure Mib where
  name : Option String := none
  numbers : List Int
  deriving Repr, DecidableEq, Inhabited

def Mib.extend (mib : Mib) (numbers : List Int) : Mib := { mib with numbers := mib.numbers ++ numbers }

structure Reply where
  bytes : Bytes
  address : Nat := 0
  deriving Repr, DecidableEq, Inhabited

inductive SysctlCall
  /-- Number of bytes that a table has. -/
  | size (mib : Mib)
  /-- The table's bytes into a buffer of some room; too little room is an error. -/
  | read (mib : Mib) (room : Nat)
  /-- The same for the table of a name. -/
  | readNamed (name : String) (room : Nat)
  /-- Whether the name has an address, which then stands for itself. -/
  | resolve (name : String)
  deriving Repr, DecidableEq

@[reducible] def SysctlCall.Answer : SysctlCall → Type
  | size _ => Except IoError Nat
  | read .. => Except IoError Reply
  | readNamed .. => Except IoError Reply
  | resolve _ => Except IoError Unit

structure Mount where
  device : Bytes
  directory : Bytes
  fstype : Bytes
  flags : Nat
  deriving Repr, DecidableEq, Inhabited

inductive MountCall
  /-- Number of mounted file systems. -/
  | count
  /-- As many of them as there is room for. -/
  | list (room : Nat)
  deriving Repr, DecidableEq

@[reducible] def MountCall.Answer : MountCall → Type
  | count => Except IoError Int
  | list _ => Except IoError (List Mount)

structure SwapPages where
  total : Nat
  used : Nat
  deriving Repr, DecidableEq, Inhabited

inductive SwapCall
  /-- The swap statistics, if the kernel's memory can be opened; there may be none. -/
  | pages
  deriving Repr, DecidableEq

@[reducible] def SwapCall.Answer : SwapCall → Type
  | pages => Except IoError (Option SwapPages)

/-! ### Kernel statistics -/

structure KstatHeader where
  id : Nat
  module : String
  instanceNumber : Int
  name : String
  className : String
  type : Nat
  deriving Repr, DecidableEq, Inhabited

inductive KstatCall
  /-- Headers of the chain, in its order. -/
  | chain
  /-- Data of one statistic, if it has any. -/
  | read (entry : KstatHeader)
  deriving Repr, DecidableEq

@[reducible] def KstatCall.Answer : KstatCall → Type
  | chain => Except IoError (List KstatHeader)
  | read _ => Except IoError (Option Bytes)

/-! ### Ports -/

abbrev KernelResult := Int

inductive ProcessFacet
  | descriptors
  | identity
  | task
  | thread (id : Nat)
  | threads
  | directories
  deriving Repr, DecidableEq, Inhabited

inductive DescriptorFacet
  | file
  | socket
  deriving Repr, DecidableEq, Inhabited

structure MemoryRegion where
  address : Nat
  size : Nat
  references : Nat
  privatePages : Nat
  sharedPages : Nat
  shareMode : Nat
  deriving Repr, DecidableEq, Inhabited

inductive MachCall
  /-- Bytes that fit into a buffer; an answer without any is an error. -/
  | process (pid : Pid) (facet : ProcessFacet) (room : Nat)
  /-- Number of bytes that the answer is thought to need. -/
  | processSize (pid : Pid) (facet : ProcessFacet)
  | descriptor (pid : Pid) (fd : Int) (facet : DescriptorFacet) (room : Nat)
  | path (pid : Pid) (room : Nat)
  | name (pid : Pid) (room : Nat)
  | usage (pid : Pid) (room : Nat)
  /-- Ticks of all processors together. -/
  | load (room : Nat)
  /-- Counts of the memory system. -/
  | memory (room : Nat)
  /-- Number of processors, and the ticks of each one after the other. -/
  | processors
  /-- Numerator and denominator of the nanoseconds in a unit of time. -/
  | timebase
  /-- Resident size of the caller. -/
  | resident
  /-- Right to look into a task. -/
  | taskPort (pid : Pid)
  /-- The first region that ends behind an address, of a process or of the caller. -/
  | region (pid : Option Pid) (address : Nat)
  deriving Repr, DecidableEq

@[reducible] def MachCall.Answer : MachCall → Type
  | process .. => Except IoError Bytes
  | processSize .. => Except IoError Nat
  | descriptor .. => Except IoError Bytes
  | path .. => Except IoError Bytes
  | name .. => Except IoError Bytes
  | usage .. => Except IoError Bytes
  | load _ => Except KernelResult Bytes
  | memory _ => Except KernelResult Bytes
  | processors => Except KernelResult (Nat × List Nat)
  | timebase => Except KernelResult (Nat × Nat)
  | resident => Except IoError Nat
  | taskPort _ => Except KernelResult Unit
  | region .. => Except KernelResult MemoryRegion

/-! ### Teams -/

/-- What a call answers when it fails: a negative number. -/
abbrev TeamStatus := Int

/-- The system as a whole; times are in microseconds and sizes in pages. -/
structure SystemSummary where
  bootTime : Int := 0
  processors : Nat := 0
  maxPages : Nat := 0
  usedPages : Nat := 0
  cachedPages : Nat := 0
  maxSwapPages : Nat := 0
  freeSwapPages : Nat := 0
  deriving Repr, DecidableEq, Inhabited

structure ProcessorSummary where
  /-- Microseconds that the processor was busy. -/
  activeTime : Int := 0
  enabled : Bool := false
  frequency : Nat := 0
  deriving Repr, DecidableEq, Inhabited

structure TeamSummary where
  threads : Int
  user : Nat
  group : Nat
  realUser : Nat
  realGroup : Nat
  parent : Pid
  /-- Microseconds from the system's start to the team's. -/
  startTime : Int
  deriving Repr, DecidableEq, Inhabited

structure TeamThread where
  id : Int
  state : Int
  userTime : Int
  kernelTime : Int
  deriving Repr, DecidableEq, Inhabited

structure TeamArea where
  size : Nat
  resident : Nat
  deriving Repr, DecidableEq, Inhabited

structure TeamImage where
  type : Int
  path : Bytes
  deriving Repr, DecidableEq, Inhabited

structure TeamVolume where
  root : Option (Nat × Nat)
  flags : Nat
  device : Bytes
  fstype : Bytes
  deriving Repr, DecidableEq, Inhabited

inductive TeamCall
  | summary
  /-- So many processors, from the first on. -/
  | processors (count : Nat)
  /-- Microseconds since the system's start. -/
  | uptime
  /-- Identifiers of all teams. -/
  | teams
  /-- Whether the short record of a team can be had. -/
  | known (pid : Pid)
  | team (pid : Pid)
  /-- User and kernel time of a team, or of its children. -/
  | usage (pid : Pid) (children : Bool)
  | threads (pid : Pid)
  | areas (pid : Pid)
  | images (pid : Pid)
  | volumes
  deriving Repr, DecidableEq

@[reducible] def TeamCall.Answer : TeamCall → Type
  | summary => Except TeamStatus SystemSummary
  | processors _ => Except TeamStatus (List ProcessorSummary)
  | uptime => Int
  | teams => List Pid
  | known _ => Bool
  | team _ => Except TeamStatus TeamSummary
  | usage .. => Except TeamStatus (Int × Int)
  | threads _ => List TeamThread
  | areas _ => List TeamArea
  | images _ => List TeamImage
  | volumes => List TeamVolume

end HostProbe
