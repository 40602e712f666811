import HostProbe.Probing
import HostProbe.Proofs.Identifiers.Liveness

/-! What is asked about one process or done to it, on every system; whom the kernel takes the calls behind it to be
about; and queries that are guarded: about the process asked for alone, and refused for an identifier that belongs to
none. -/
namespace HostProbe

/-! ### Operations on a process -/

inductive Operation
  | name
  | exe
  | commandLine
  | environment
  | workingDirectory
  | parent
  | status
  | userIds
  | groupIds
  | terminal
  | createTime
  | processCpuTimes
  | memoryInfo
  | memoryFullInfo
  | memoryMaps
  | threadCount
  | threads
  | contextSwitches
  | ioCounters
  | openFiles
  | descriptorCount
  | connections (filter : ConnectionFilter)
  | nice
  | setNice (value : Int)
  | cpuAffinity
  | setCpuAffinity (cpus : List Nat)
  | resourceLimit (resource : Resource)
  | sendSignal (signal : Signal)
  | suspend
  | resume
  | isZombie
  deriving DecidableEq

namespace Operation

@[reducible] def Answer : Operation → Type
  | name | exe | workingDirectory => String
  | commandLine => List String
  | environment => Table String
  | parent => Pid
  | status => ProcessStatus
  | userIds | groupIds => ProcessIds
  | terminal => Option String
  | createTime => Float
  | processCpuTimes => ProcessCpuTimes
  | memoryInfo => ProcessMemory
  | memoryFullInfo => MemoryFootprint
  | memoryMaps => List MemoryMap
  | threadCount | descriptorCount => Nat
  | threads => List ThreadTimes
  | contextSwitches => ContextSwitches
  | ioCounters => IoCounters
  | openFiles => List OpenFile
  | connections _ => List Connection
  | nice => Int
  | cpuAffinity => List Nat
  | resourceLimit _ => ResourceLimit
  | setNice _ | setCpuAffinity _ | sendSignal _ | suspend | resume => Unit
  | isZombie => Bool

def query (p : Platform) (pid : Pid) : (o : Operation) → Query o.Answer
  | name => p.name pid
  | exe => p.exe pid
  | commandLine => p.commandLine pid
  | environment => p.environment pid
  | workingDirectory => p.workingDirectory pid
  | parent => p.parent pid
  | status => p.status pid
  | userIds => p.userIds pid
  | groupIds => p.groupIds pid
  | terminal => p.terminal pid
  | createTime => p.createTime pid
  | processCpuTimes => p.processCpuTimes pid
  | memoryInfo => p.memoryInfo pid
  | memoryFullInfo => p.memoryFullInfo pid
  | memoryMaps => p.memoryMaps pid
  | threadCount => p.threadCount pid
  | threads => p.threads pid
  | contextSwitches => p.contextSwitches pid
  | ioCounters => p.ioCounters pid
  | openFiles => p.openFiles pid
  | descriptorCount => p.descriptorCount pid
  | connections filter => p.connections pid filter
  | nice => p.nice pid
  | setNice value => p.setNice pid value
  | cpuAffinity => p.cpuAffinity pid
  | setCpuAffinity cpus => p.setCpuAffinity pid cpus
  | resourceLimit resource => p.resourceLimit pid resource
  | sendSignal signal => p.sendSignal pid signal
  | suspend => p.suspend pid
  | resume => p.resume pid
  | isZombie => p.isZombie pid

end Operation

/-! ### Systems -/

/-- The systems that signal processes and rank them by the calls of the Unix family, each with what its probe knows. -/
inductive Unix
  | linux (p : Linux.Probe)
  | cygwin (p : Linux.Probe)
  | sunos (p : SunOS.Probe)
  | aix (p : AIX.Probe)
  | freebsd (p : BSD.Probe)
  | openbsd (p : BSD.Probe)
  | netbsd (p : BSD.Probe)
  | macos (p : MacOS.Probe)
  | haiku

inductive System
  | unix (u : Unix)
  | windows (context : Context)
  /-- A system of which nothing is known. -/
  | other

namespace Unix

def platform : Unix → Platform
  | linux p => Linux.platform p
  | cygwin p => Cygwin.platform p
  | sunos p => SunOS.platform p
  | aix p => AIX.platform p
  | freebsd p => FreeBSD.platform p
  | openbsd p => OpenBSD.platform p
  | netbsd p => NetBSD.platform p
  | macos p => MacOS.platform p
  | haiku => Haiku.platform

def offers : Unix → Operation → Bool
  | linux _, _ => true
  | cygwin _, o =>
    match o with
    | .terminal | .memoryFullInfo | .memoryMaps | .threads | .contextSwitches | .ioCounters | .connections _
    | .cpuAffinity | .setCpuAffinity _ | .resourceLimit _ => false
    | _ => true
  | sunos _, o =>
    match o with
    | .memoryFullInfo | .memoryMaps | .connections _ | .cpuAffinity | .setCpuAffinity _ | .resourceLimit _ => false
    | _ => true
  | aix _, o =>
    match o with
    | .memoryFullInfo | .memoryMaps | .threads | .contextSwitches | .ioCounters | .openFiles | .connections _
    | .cpuAffinity | .setCpuAffinity _ | .resourceLimit _ => false
    | _ => true
  | freebsd _, o =>
    match o with
    | .memoryFullInfo | .memoryMaps => false
    | _ => true
  | openbsd _, o =>
    match o with
    | .exe | .memoryFullInfo | .memoryMaps | .openFiles | .cpuAffinity | .setCpuAffinity _ | .resourceLimit _ => false
    | _ => true
  | netbsd _, o =>
    match o with
    | .memoryFullInfo | .memoryMaps | .openFiles | .cpuAffinity | .setCpuAffinity _ | .resourceLimit _ => false
    | _ => true
  | macos _, o =>
    match o with
    | .memoryMaps | .cpuAffinity | .setCpuAffinity _ | .resourceLimit _ => false
    | _ => true
  | haiku, o =>
    match o with
    | .commandLine | .environment | .workingDirectory | .terminal | .memoryFullInfo | .memoryMaps | .contextSwitches
    | .ioCounters | .openFiles | .descriptorCount | .connections _ | .cpuAffinity | .setCpuAffinity _
    | .resourceLimit _ => false
    | _ => true

end Unix

/-- The call about the caller that an operation on Linux alone begins with when it is asked for zero. Processors are
asked for with room for 1024 of them, which the policy on buffers must grant. -/
def Linux.callOnZero? (p : Linux.Probe) : Operation → Option PosixCall
  | .cpuAffinity =>
    if 0 < p.context.buffers.maxAttempts ∧ 128 ≤ p.context.buffers.maxSize then some (.getAffinity 0 128) else none
  | .setCpuAffinity [] => none
  | .setCpuAffinity cpus => some (.setAffinity 0 (Affinity.maskOfCpus cpus))
  | .resourceLimit resource => some (.resourceLimit 0 (Linux.Probe.resourceNumber resource))
  | _ => none

/-- The call about the caller that an operation begins with when it is asked for zero, if there is one. -/
def Unix.callOnZero? (u : Unix) : Operation → Option PosixCall
  | .nice => some (.getPriority Posix.byProcess 0)
  | .setNice value => some (.setPriority Posix.byProcess 0 value)
  | o =>
    match u with
    | linux p => Linux.callOnZero? p o
    | _ => none

def Windows.carries : Signal → Bool
  | .terminate | .kill | .stop | .resume => true
  | _ => false

namespace System

def platform : System → Platform
  | unix u => u.platform
  | windows context => Windows.platform context
  | other => Platform.unsupported

def offers : System → Operation → Bool
  | unix u, o => u.offers o
  | windows _, o =>
    match o with
    | .userIds | .groupIds | .terminal | .resourceLimit _ => false
    | .sendSignal signal => Windows.carries signal
    | _ => true
  | other, _ => false

end System

/-! ### Whom a call is about -/

/-- Whom a call is about, as the kernel reads its identifier. -/
inductive Reach
  /-- The one process that the identifier belongs to. -/
  | process (pid : Pid)
  /-- The caller, its group, some other group or every process. -/
  | others
  deriving Repr, DecidableEq

/-- Positive identifiers belong to processes; zero is the caller or its group, and negative ones are groups. -/
def Reach.ofPid (pid : Pid) : Reach := if 0 < pid then .process pid else .others

/-- Whom a call is about, if it is one that selects processes by their identifier. -/
def PosixCall.reach? : PosixCall → Option Reach
  | kill pid _ | getAffinity pid _ | setAffinity pid _ | resourceLimit pid _ => some (.ofPid pid)
  | getPriority which pid | setPriority which pid _ =>
    some (if which = Posix.byProcess then .ofPid pid else .others)
  -- Sets of processors are selected by process alone, whose numbers begin with the kernel's own zero.
  | getCpuSet level which pid _ | setCpuSet level which pid _ =>
    some (if level = 3 ∧ which = 2 ∧ 0 ≤ pid then .process pid else .others)
  | _ => none

def Call.reach? : Call → Option Reach
  | posix c => c.reach?
  | _ => none

/-- A call is about the process of the identifier or about none; where zero is exempt, a call asked for with it may be
about anyone. -/
def Aims (pid : Pid) (zero : Bool) (c : Call) : Prop :=
  ∀ r, c.reach? = some r → r = .process pid ∨ zero = true ∧ pid = 0

section aims

variable {pid : Pid} {zero : Bool}

theorem Reach.ofPid_of_pos (positive : 0 < pid) : Reach.ofPid pid = .process pid := if_pos positive

namespace Aims

theorem of_none {c : Call} (other : c.reach? = none) : Aims pid zero c := by
  rintro r reached
  rw [other] at reached
  cases reached

theorem of_process {c : Call} (reached : c.reach? = some (.process pid)) : Aims pid zero c := by
  rintro r found
  rw [reached] at found
  cases found
  exact .inl rfl

/-- A call that is handed an identifier unchecked for zero. -/
theorem of_nonnegative {c : Call} (reached : c.reach? = some (.ofPid pid)) (nonnegative : 0 ≤ pid) :
    Aims pid true c := by
  rcases Int.lt_or_eq_of_le nonnegative with positive | exempt
  · rw [Reach.ofPid_of_pos positive] at reached
    exact of_process reached
  · exact fun _ _ => .inr ⟨rfl, exempt.symm⟩

end Aims

/-! ### Guarded queries -/

namespace Query

variable {α β : Type} {query : Query α}

/-- A negative identifier is refused before anything is asked. -/
def Refuses (pid : Pid) (query : Query α) : Prop := pid < 0 → query = Query.report (.notFound pid)

theorem report_bind (error : Error) (f : α → Query β) : (Query.report error >>= f) = Query.report error := rfl

theorem Refuses.checked (rest : Unit → Query α) : (Query.lift (checkPid pid) >>= rest).Refuses pid := by
  intro negative
  rw [checkPid, if_pos negative]
  rfl

theorem Refuses.bind (refuses : query.Refuses pid) (f : α → Query β) : (query >>= f).Refuses pid := by
  intro negative
  rw [refuses negative, report_bind]

/-- The query is about one process alone, and refused for an identifier that belongs to none. -/
structure Guarded (pid : Pid) (zero : Bool) (query : Query α) : Prop where
  within : Within (Aims pid zero) query
  refuses : query.Refuses pid

namespace Guarded

theorem checked {rest : Unit → Query α} (after : 0 ≤ pid → Within (Aims pid zero) (rest ())) :
    (Query.lift (checkPid pid) >>= rest).Guarded pid zero where
  within := by
    rw [checkPid]
    split
    · exact .reported _ _
    · rename_i nonnegative
      exact .bind (.lift _) fun _ => after (Int.not_lt.mp nonnegative)
  refuses := .checked rest

theorem bind (guarded : query.Guarded pid zero) {f : α → Query β} (rest : 0 ≤ pid → ∀ a, Within (Aims pid zero) (f a)) :
    (query >>= f).Guarded pid zero where
  within := by
    rcases Int.lt_or_le pid 0 with negative | nonnegative
    · rw [guarded.refuses negative, report_bind]
      exact .report _
    · exact .bind guarded.within (rest nonnegative)
  refuses := guarded.refuses.bind f

/-- What is only made of the answer needs no guard. -/
theorem map (guarded : query.Guarded pid zero) (f : α → β) :
    (query >>= fun a => pure (f a)).Guarded pid zero := guarded.bind fun _ _ => .pure _

end Guarded
end Query

/-! ### Questions about no process -/

namespace Program.Within

theorem file (c : FileCall) : (Ask.file c).Within (Aims pid zero) := .call (.of_none rfl)

theorem sysctl (c : SysctlCall) : (Ask.sysctl c).Within (Aims pid zero) := .call (.of_none rfl)

theorem mach (c : MachCall) : (Ask.mach c).Within (Aims pid zero) := .call (.of_none rfl)

theorem team (c : TeamCall) : (Ask.team c).Within (Aims pid zero) := .call (.of_none rfl)

theorem posix {c : PosixCall} (other : c.reach? = none) : (Ask.posix c).Within (Aims pid zero) :=
  .call (.of_none other)

theorem readText (path : String) : (Ask.readText path).Within (Aims pid zero) :=
  Ask.readText_within (fun _ => .of_none rfl) path

theorem fileExists (path : String) : (Ask.fileExists path).Within (Aims pid zero) := .bind (.file _) fun _ => .pure _

end Program.Within

/-! ### Signals and priorities -/

namespace Posix

theorem within_pidExists : (Posix.pidExists pid).Within (Aims pid zero) :=
  pidExists_within fun positive => .of_process (congrArg some (Reach.ofPid_of_pos positive))

variable {live : Liveness Program}

/-- A signal is the one call that zero never comes to. -/
theorem guarded_sendSignal (numbers : SignalNumbers) (within : live.Within (Aims pid zero) pid) (signal : Signal) :
    (Posix.sendSignal numbers live pid signal).Guarded pid zero := by
  refine .checked fun nonnegative => ?_
  split
  · exact .reported _ _
  rename_i nonzero
  have positive := Int.lt_iff_le_and_ne.mpr ⟨nonnegative, Ne.symm nonzero⟩
  have reached : (Call.posix (.kill pid (numbers.number signal))).reach? = some (.process pid) :=
    congrArg some (Reach.ofPid_of_pos positive)
  refine .ask (.call (.of_process reached)) fun sent => ?_
  cases sent with
  | ok answer => exact .pure _
  | error cause => exact .ite (.reported _ _) (.fail within _ _)

theorem guarded_getPriority (within : live.Within (Aims pid true) pid) :
    (Posix.getPriority live pid).Guarded pid true := by
  refine .checked fun nonnegative => .ask (.call (.of_nonnegative rfl nonnegative)) fun answered => ?_
  cases answered with
  | ok priority => exact .pure _
  | error cause => exact .fail within _ _

theorem guarded_setPriority (within : live.Within (Aims pid true) pid) (value : Int) :
    (Posix.setPriority live pid value).Guarded pid true := by
  refine .checked fun nonnegative => .ask (.call (.of_nonnegative rfl nonnegative)) fun answered => ?_
  cases answered with
  | ok done => exact .pure _
  | error cause => exact .fail within _ _

/-- Terminals are sought among the devices, whoever they belong to. -/
theorem within_deviceAmong (number : Nat) (dir : String) (names : List String) :
    (deviceAmong number dir names).Within (Aims pid zero) := by
  induction names with
  | nil => exact .pure _
  | cons name names ih =>
    refine .bind (.file _) fun told => ?_
    cases told with
    | ok info =>
      dsimp only
      split
      · exact .pure _
      · exact ih
    | error cause => exact ih

theorem within_deviceIn (number : Nat) (dirs : List String) : (deviceIn number dirs).Within (Aims pid zero) := by
  induction dirs with
  | nil => exact .pure _
  | cons dir dirs ih =>
    refine .bind (.file _) fun names => .bind (within_deviceAmong number dir _) fun found => ?_
    cases found with
    | some path => exact .pure _
    | none => exact ih

end Posix
end aims
end HostProbe
