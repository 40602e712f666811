import HostProbe.Host
import HostProbe.Proofs.Blocks
import HostProbe.Proofs.Query
import HostProbe.SunOS
import Mathlib.Data.List.Sort

/-! The chain of kernel statistics in another order. What is told of the system is put together from the entries by
sorting, by looking one up, by a table or by a set; where entries cannot be mistaken for each other none of these
shows in which order they came. -/
namespace HostProbe

/-! ### Lists in another order -/

variable {α : Type}

namespace Reordering

theorem nodup_eraseDups [BEq α] [LawfulBEq α] (xs : List α) : xs.eraseDups.Nodup := by
  induction left : xs.length using Nat.strongRecOn generalizing xs with
  | ind n ih =>
    cases xs with
    | nil => exact .nil
    | cons x xs =>
      rw [List.eraseDups_cons, List.nodup_cons]
      have shorter : (xs.filter fun y => !y == x).length < n := left ▸ Nat.lt_succ_of_le (List.length_filter_le ..)
      exact ⟨by simp, ih _ shorter _ rfl⟩

theorem length_eraseDups [BEq α] [LawfulBEq α] {xs ys : List α} (same : xs.Perm ys) :
    xs.eraseDups.length = ys.eraseDups.length := by
  refine ((List.perm_ext_iff_of_nodup (nodup_eraseDups xs) (nodup_eraseDups ys)).mpr fun a => ?_).length_eq
  rw [List.mem_eraseDups, List.mem_eraseDups, same.mem_iff]

def precedes (a b : Int × α) : Bool := a.1 ≤ b.1

theorem pairwise_mergeSort (xs : List (Int × α)) : (xs.mergeSort precedes).Pairwise fun a b => a.1 ≤ b.1 := by
  refine (List.pairwise_mergeSort (fun a b c first second => ?_) (fun a b => ?_) xs).imp of_decide_eq_true
  · exact decide_eq_true (Int.le_trans (of_decide_eq_true first) (of_decide_eq_true second))
  · simpa [precedes] using Int.le_total a.1 b.1

theorem mergeSort_eq {xs ys : List (Int × α)} (same : xs.Perm ys) (distinct : (xs.map (·.1)).Nodup) :
    xs.mergeSort precedes = ys.mergeSort precedes := by
  have ofXs := List.mergeSort_perm xs precedes
  have ofYs := List.mergeSort_perm ys precedes
  refine ((ofXs.trans same).trans ofYs.symm).eq_of_pairwise (fun a b first second low high => ?_)
    (pairwise_mergeSort xs) (pairwise_mergeSort ys)
  have among := same.symm.subset (ofYs.subset second)
  exact List.inj_on_of_nodup_map distinct (ofXs.subset first) among (Int.le_antisymm low high)

theorem eq_of_length_le_one {xs ys : List α} (same : xs.Perm ys) (single : xs.length ≤ 1) : xs = ys := by
  match xs with
  | [] => exact same.nil_eq
  | [x] => exact List.singleton_perm.mp same
  | _ :: _ :: _ => exact absurd single (by simp)

end Reordering

namespace SunOS

variable {β : Type} {answer other : (c : Call) → c.Answer}

/-! ### What a chain holds -/

abbrev Statistic := KstatHeader × Option Bytes

namespace Statistic

/-- What an entry says, without the number that is its place in memory. -/
def said (s : Statistic) : Statistic := ({ s.1 with id := 0 }, s.2)

def numbers (s : Statistic) : NamedNumbers :=
  (NamedValue.layout.all (s.2.getD [])).map fun v => (v.name, v.number?)

end Statistic

open Statistic (said numbers)

/-- The host has a chain of these entries, all of which can be read. -/
structure Keeps (answer : (c : Call) → c.Answer) (entries : List Statistic) : Prop where
  chain : answer (.kstat .chain) = .ok (entries.map (·.1))
  read : ∀ s ∈ entries, answer (.kstat (.read s.1)) = .ok s.2

/-- What is made of each of some entries. -/
theorem result_mapM_entries {f : KstatHeader → Query β} {g : Statistic → β} {picked : List Statistic}
    (each : ∀ s ∈ picked, (f s.1).result answer = .ok (g s)) :
    ((picked.map (·.1)).mapM f).result answer = .ok (picked.map g) := by
  rw [Query.result_mapM]
  induction picked with
  | nil => rfl
  | cons s picked ih =>
    obtain ⟨first, others⟩ := List.forall_mem_cons.mp each
    rw [List.map_cons, List.mapM_cons, first, ih others]
    rfl

namespace Keeps

variable {entries : List Statistic} (keeps : Keeps answer entries)
include keeps

theorem result_chain : Kstat.chain.result answer = .ok (entries.map (·.1)) := by
  have told : (Ask.kstat .chain).eval answer = .ok (entries.map (·.1)) := keeps.chain
  rw [Kstat.chain, Query.result_bind, Query.result_ofProgram, told]
  rfl

theorem result_find (module : String) (name : Option String) : (Kstat.find module name).result answer =
    .ok ((entries.filter (Kstat.belongs module name ·.1)).map (·.1)) := by
  rw [Kstat.find, Query.result_bind_of_ok answer keeps.result_chain, Query.result_pure, List.filter_map]
  rfl

variable {s : Statistic} (member : s ∈ entries)
include member

theorem result_read : (Kstat.read s.1).result answer = .ok (s.2.getD []) := by
  have told : (Ask.kstat (.read s.1)).eval answer = .ok s.2 := keeps.read s member
  rw [Kstat.read, Query.result_bind, Query.result_ofProgram, told]
  rfl

theorem result_namedNumbers : (Kstat.namedNumbers s.1).result answer = .ok (numbers s) := by
  rw [Kstat.namedNumbers, Kstat.namedValues, Query.result_bind, Query.result_bind_pure, keeps.result_read member]
  rfl

end Keeps

/-! ### Answers as functions of the entries -/

def processorsOf (entries : List Statistic) : List (Table Nat) :=
  (((entries.filter (Kstat.belongs "cpu" (some "sys") ·.1)).map fun s =>
    (s.1.instanceNumber, (numbers s).table)).mergeSort Reordering.precedes).map (·.2)

def coresOf (entries : List Statistic) : List (Nat × Nat) :=
  ((entries.filter (Kstat.belongs "cpu_info" none ·.1)).map fun s =>
    ((numbers s).first? "core_id").map fun core => (((numbers s).first? "chip_id").getD 0, core)).filterMap id

def isDisk (entry : KstatHeader) : Bool := entry.type == Kstat.ioType && entry.className == "disk"

def diskCounters (s : Statistic) : Option (String × DiskIoCounters) :=
  (DeviceCounters.layout.first? (s.2.getD [])).map fun c => (s.1.name, {
    readCount := c.reads, writeCount := c.writes, readBytes := c.bytesRead, writeBytes := c.bytesWritten
    readTime := Probe.milliseconds c.runTime, writeTime := Probe.milliseconds c.waitTime })

def disksOf (entries : List Statistic) : List (String × DiskIoCounters) :=
  ((entries.filter (isDisk ·.1)).map diskCounters).filterMap id

def linkCounters (s : Statistic) : String × NetIoCounters :=
  let value (name : String) : Nat := ((numbers s).first? name).getD 0
  (s.1.name, {
    bytesSent := value "obytes64", bytesReceived := value "rbytes64", packetsSent := value "opackets64"
    packetsReceived := value "ipackets64", errorsIn := value "ierrors", errorsOut := value "oerrors"
    dropsIn := value "norcvbuf", dropsOut := value "noxmtbuf" })

def isInterface (interfaces : Table Nat) (entry : KstatHeader) : Bool :=
  Probe.isLink entry && Table.contains interfaces entry.name

def linksOf (interfaces : Table Nat) (entries : List Statistic) : List (String × NetIoCounters) :=
  (entries.filter (isInterface interfaces ·.1)).map linkCounters

/-- State of an interface, from the values of its link's entry if it has one. -/
def interfaceState (entries : List Statistic) (interface : String × Nat) : String × NicStats :=
  let named := (entries.filter fun s => Probe.isLink s.1 && s.1.name == interface.1).map numbers
  let values : NamedNumbers := named.head?.getD []
  (interface.1, {
    isUp := Posix.isUp interface.2, flags := Posix.flagNames 0x1000 interface.2, mtu := 0
    speed := (values.first? "ifspeed").getD 0 / 1000000
    duplex := Probe.linkDuplex (values.first? "link_duplex") })

namespace Keeps

variable {entries : List Statistic} (keeps : Keeps answer entries)
include keeps

theorem result_processors :
    Probe.processors.result answer = ensureNonempty "kstat(cpu::sys)" (processorsOf entries) := by
  rw [Probe.processors, Query.result_bind_of_ok answer (keeps.result_find _ _)]
  rw [Query.result_bind_of_ok answer (result_mapM_entries (g := fun s => (s.1.instanceNumber, (numbers s).table)) ?_)]
  · rfl
  · intro s picked
    rw [Query.result_bind_pure, keeps.result_namedNumbers (List.mem_of_mem_filter picked)]
    rfl

/-- Cores are counted by what the entries say, in whatever order. -/
theorem result_cpuCountCores : Probe.cpuCountCores.result answer =
    if (coresOf entries).eraseDups.length = 0 then .error (.report (.unsupported "cpu_count_cores"))
    else .ok (coresOf entries).eraseDups.length := by
  rw [Probe.cpuCountCores, Query.result_bind_of_ok answer (keeps.result_find _ _)]
  rw [Query.result_bind_of_ok answer (result_mapM_entries (g := fun s => ((numbers s).first? "core_id").map fun core =>
    (((numbers s).first? "chip_id").getD 0, core)) ?_)]
  · change Query.result answer (if (coresOf entries).eraseDups.isEmpty then _ else _) = _
    simp only [List.isEmpty_iff_length_eq_zero]
    split <;> rfl
  · intro s picked
    rw [Query.result_bind_of_ok answer (keeps.result_namedNumbers (List.mem_of_mem_filter picked))]
    rfl

/-- Disks are told by what the entries say, in whatever order. -/
theorem result_diskIoCounters : Probe.diskIoCounters.result answer = .ok (Table.ofList (disksOf entries)) := by
  rw [Probe.diskIoCounters, Query.result_bind_of_ok answer keeps.result_chain]
  have disks : (entries.map (·.1)).filter isDisk = (entries.filter (isDisk ·.1)).map (·.1) := List.filter_map
  change Query.result answer (((entries.map (·.1)).filter isDisk).mapM _ >>= _) = _
  rw [disks, Query.result_bind_of_ok answer (result_mapM_entries (g := diskCounters) ?_)]
  · rfl
  · intro s picked
    rw [Query.result_bind_pure, keeps.result_read (List.mem_of_mem_filter picked)]
    rfl

/-- A link adds its traffic to an interface that has none yet. -/
theorem result_countLink {s : Statistic} (member : s ∈ entries) (interfaces : Table Nat)
    {counters : Table NetIoCounters} (fresh : isInterface interfaces s.1 → Table.contains counters s.1.name = false) :
    (Probe.countLink interfaces counters s.1).result answer =
      .ok (if isInterface interfaces s.1 then counters.insert (linkCounters s).1 (linkCounters s).2 else counters) := by
  rw [Probe.countLink]
  by_cases counts : isInterface interfaces s.1
  · obtain ⟨link, known⟩ := Bool.and_eq_true_iff.mp counts
    rw [if_pos counts, link, known, fresh counts]
    rw [if_neg (by decide), Query.result_bind_of_ok answer (keeps.result_namedNumbers member)]
    rfl
  · have passed : (!Probe.isLink s.1 || !Table.contains interfaces s.1.name ||
        Table.contains counters s.1.name) = true := by
      rcases Bool.and_eq_false_iff.mp (Bool.not_eq_true _ ▸ counts) with no | no <;> simp [no]
    rw [if_neg counts, if_pos passed, Query.result_pure]

/-- Traffic of the links behind some others, each of which is counted for the first time. -/
theorem result_links {interfaces : Table Nat} {rest : List Statistic} (among : ∀ s ∈ rest, s ∈ entries)
    (distinct : ((linksOf interfaces rest).map (·.1)).Nodup) {counters : Table NetIoCounters}
    (fresh : ∀ link ∈ linksOf interfaces rest, Table.contains counters link.1 = false) :
    ((rest.map (·.1)).foldlM (Probe.countLink interfaces) counters).result answer =
      .ok ((linksOf interfaces rest).foldl (fun t (k, v) => t.insert k v) counters) := by
  induction rest generalizing counters with
  | nil => rfl
  | cons s rest ih =>
    obtain ⟨member, later⟩ := List.forall_mem_cons.mp among
    rw [List.map_cons, List.foldlM_cons]
    by_cases counts : isInterface interfaces s.1
    · have links : linksOf interfaces (s :: rest) = linkCounters s :: linksOf interfaces rest :=
        congrArg (List.map linkCounters) (List.filter_cons_of_pos counts)
      rw [links] at distinct fresh ⊢
      obtain ⟨first, others⟩ := List.forall_mem_cons.mp fresh
      obtain ⟨new, distinct⟩ := List.nodup_cons.mp distinct
      rw [Query.result_bind_of_ok answer (keeps.result_countLink member interfaces fun _ => first), if_pos counts]
      -- The links that are left have names of their own, so none of them is set by counting this one.
      refine ih later distinct fun link found => Table.contains_eq_false_iff.mpr fun entry set => ?_
      rcases Table.mem_of_mem_insert set with rfl | old
      · exact fun same => new (List.mem_map.mpr ⟨link, found, same.symm⟩)
      · exact Table.contains_eq_false_iff.mp (others link found) entry old
    · have links : linksOf interfaces (s :: rest) = linksOf interfaces rest :=
        congrArg (List.map linkCounters) (List.filter_cons_of_neg counts)
      rw [links] at distinct fresh ⊢
      rw [Query.result_bind_of_ok answer (keeps.result_countLink member interfaces fun yes => absurd yes counts),
        if_neg counts]
      exact ih later distinct fresh

theorem result_netIoCounters {interfaces : Table Nat} (flags : Posix.interfaceFlags.result answer = .ok interfaces)
    (distinct : ((linksOf interfaces entries).map (·.1)).Nodup) :
    Probe.netIoCounters.result answer = .ok (Table.ofList (linksOf interfaces entries)) := by
  rw [Probe.netIoCounters, Query.result_bind_of_ok answer flags, Query.result_bind_of_ok answer keeps.result_chain]
  exact keeps.result_links (fun _ => id) distinct fun _ _ => rfl

/-- The state of an interface is found by its name. -/
theorem result_interfaceStats (interface : String × Nat) :
    (Probe.interfaceStats (entries.map (·.1)) interface).result answer = .ok (interfaceState entries interface) := by
  have first : (entries.map (·.1)).find? (fun e => Probe.isLink e && e.name == interface.1) =
      (entries.find? fun s => Probe.isLink s.1 && s.1.name == interface.1).map (·.1) := List.find?_map
  rw [Probe.interfaceStats, interfaceState, List.head?_map, List.head?_filter, first]
  cases found : entries.find? fun s => Probe.isLink s.1 && s.1.name == interface.1 with
  | none => rfl
  | some s =>
    have read : (Kstat.namedNumbers s.1).answer?.result answer = .ok (some (numbers s)) := by
      rw [Query.result_answer?, keeps.result_namedNumbers (List.mem_of_find?_eq_some found)]
    exact Query.result_bind_of_ok answer read _

theorem result_netStats {interfaces : Table Nat} (flags : Posix.interfaceFlags.result answer = .ok interfaces) :
    Probe.netStats.result answer = .ok (interfaces.map (interfaceState entries)) := by
  rw [Probe.netStats, Query.result_bind_of_ok answer flags, Query.result_bind_of_ok answer keeps.result_chain,
    Query.result_mapM]
  simp only [keeps.result_interfaceStats]
  exact List.mapM_pure

end Keeps

/-! ### Another order -/

/-- No two entries agree in module, instance and name, nor two of disks or two of links in name. -/
structure Distinct (entries : List Statistic) : Prop where
  keys : (entries.map fun s => (s.1.module, s.1.instanceNumber, s.1.name)).Nodup
  disks : ((entries.filter (·.1.className == "disk")).map (·.1.name)).Nodup
  links : ((entries.filter (·.1.className == "net")).map (·.1.name)).Nodup

section order

variable {entries shuffled : List Statistic}

/-- Names that are distinct among some entries are so among fewer. -/
theorem nodup_names {p q : Statistic → Bool} (fewer : ∀ s, p s → q s)
    (distinct : ((entries.filter q).map (·.1.name)).Nodup) : ((entries.filter p).map (·.1.name)).Nodup :=
  distinct.sublist ((List.monotone_filter_right entries fewer).map _)

theorem Distinct.processors (distinct : Distinct entries) :
    ((entries.filter (Kstat.belongs "cpu" (some "sys") ·.1)).map (·.1.instanceNumber)).Nodup := by
  have apart := (List.pairwise_map.mp distinct.keys).filter (Kstat.belongs "cpu" (some "sys") ·.1)
  refine List.pairwise_map.mpr (apart.imp_of_mem fun {a b} first second differ same => differ ?_)
  have named {s : Statistic} (picked : s ∈ entries.filter (Kstat.belongs "cpu" (some "sys") ·.1)) :
      s.1.module = "cpu" ∧ s.1.name = "sys" := by
    simpa [Kstat.belongs] using (List.mem_filter.mp picked).2
  rw [(named first).1, (named first).2, (named second).1, (named second).2, same]

theorem Distinct.disksOf (distinct : Distinct entries) : ((disksOf entries).map (·.1)).Nodup := by
  have names : ((entries.filter (isDisk ·.1)).map (·.1.name)).Nodup :=
    nodup_names (fun s disk => (Bool.and_eq_true_iff.mp disk).2) distinct.disks
  have named {s : Statistic} {disk : String × DiskIoCounters} (counted : diskCounters s = some disk) :
      disk.1 = s.1.name := by
    obtain ⟨c, -, rfl⟩ := Option.map_eq_some_iff.mp counted
    rfl
  rw [SunOS.disksOf, List.filterMap_map, List.Nodup, List.pairwise_map, List.pairwise_filterMap]
  refine (List.pairwise_map.mp names).imp fun differ first counted second recounted same => differ ?_
  exact (named counted).symm.trans (same.trans (named recounted))

theorem Distinct.amongLinks (distinct : Distinct entries) {p : Statistic → Bool}
    (links : ∀ s, p s → Probe.isLink s.1) : ((entries.filter p).map (·.1.name)).Nodup :=
  nodup_names (fun s picked => (Bool.and_eq_true_iff.mp (links s picked)).2) distinct.links

theorem Distinct.linksOf (distinct : Distinct entries) (interfaces : Table Nat) :
    ((linksOf interfaces entries).map (·.1)).Nodup := by
  rw [SunOS.linksOf, List.map_map]
  exact distinct.amongLinks fun s counts => (Bool.and_eq_true_iff.mp counts).1

/-- At most one entry is of the link of an interface. -/
theorem Distinct.link (distinct : Distinct entries) (name : String) :
    (entries.filter fun s => Probe.isLink s.1 && s.1.name == name).length ≤ 1 := by
  have names : ((entries.filter fun s => Probe.isLink s.1 && s.1.name == name).map (·.1.name)).Nodup :=
    distinct.amongLinks fun s named => (Bool.and_eq_true_iff.mp named).1
  have all : ∀ n ∈ (entries.filter fun s => Probe.isLink s.1 && s.1.name == name).map (·.1.name), n = name := by
    intro n member
    obtain ⟨s, picked, rfl⟩ := List.mem_map.mp member
    exact beq_iff_eq.mp (Bool.and_eq_true_iff.mp (List.mem_filter.mp picked).2).2
  rw [List.eq_replicate_of_mem all, List.nodup_replicate, List.length_map] at names
  exact names

variable (same : (entries.map said).Perm (shuffled.map said))
include same

/-- What is made of some entries, wherever they are in memory, is the same up to its order. -/
theorem picked_perm {p : Statistic → Bool} {g : Statistic → β} (kept : ∀ s, p (said s) = p s)
    (made : ∀ s, g (said s) = g s) : ((entries.filter p).map g).Perm ((shuffled.filter p).map g) := by
  have through (some : List Statistic) : ((some.map said).filter p).map g = (some.filter p).map g := by
    rw [List.filter_map, List.map_map]
    congr 1
    · exact funext made
    · exact congrArg (List.filter · some) (funext kept)
  rw [← through entries, ← through shuffled]
  exact (same.filter p).map g

theorem processorsOf_eq (distinct : Distinct entries) : processorsOf entries = processorsOf shuffled := by
  have found := picked_perm same (p := (Kstat.belongs "cpu" (some "sys") ·.1))
    (g := fun s => (s.1.instanceNumber, (numbers s).table)) (fun _ => rfl) fun _ => rfl
  refine congrArg (List.map (·.2)) (Reordering.mergeSort_eq found ?_)
  rw [List.map_map]
  exact distinct.processors

theorem coresOf_length : (coresOf entries).eraseDups.length = (coresOf shuffled).eraseDups.length :=
  Reordering.length_eraseDups ((picked_perm same (fun _ => rfl) fun _ => rfl).filterMap id)

theorem disksOf_ofList (distinct : Distinct entries) :
    Table.ofList (disksOf entries) = Table.ofList (disksOf shuffled) :=
  Table.ofList_eq_of_perm ((picked_perm same (fun _ => rfl) fun _ => rfl).filterMap id) distinct.disksOf

theorem linksOf_perm (interfaces : Table Nat) : (linksOf interfaces entries).Perm (linksOf interfaces shuffled) :=
  picked_perm same (fun _ => rfl) fun _ => rfl

theorem interfaceState_eq (distinct : Distinct entries) : interfaceState entries = interfaceState shuffled := by
  funext interface
  have found := picked_perm same (p := fun s => Probe.isLink s.1 && s.1.name == interface.1) (g := numbers)
    (fun _ => rfl) fun _ => rfl
  have single := distinct.link interface.1
  rw [← List.length_map numbers] at single
  rw [interfaceState, interfaceState, Reordering.eq_of_length_le_one found single]

end order

/-- No question about the chain. -/
def Chainless : Call → Prop
  | .kstat _ => False
  | _ => True

theorem restsOn_interfaceFlags : Posix.interfaceFlags.RestsOn Chainless := by
  refine .bind (.bind (.call trivial) fun reply => ?_) fun _ => .pure _
  cases reply with
  | ok entries => exact .pure _
  | error cause => exact .throw _

theorem restsOn_addProcessor (values : List (Table Nat)) (stats : CpuStats) :
    (values.foldlM Probe.addProcessor stats).RestsOn Chainless :=
  .foldlM (fun _ _ => .bind (.lift _) fun _ => .bind (.lift _) fun _ => .bind (.lift _) fun _ => .pure _) _ _

/-- Chains that hold the same, in any order and anywhere in memory, tell the same of the system, as long as their
entries can all be read and none can be mistaken for another. -/
theorem order_unseen {entries shuffled : List Statistic} (keeps : Keeps answer entries) (kept : Keeps other shuffled)
    (same : (entries.map said).Perm (shuffled.map said)) (distinct : Distinct entries)
    (elsewhere : ∀ c, Chainless c → other c = answer c) (p : Probe) :
    (platform p).perCpuTimes.result other = (platform p).perCpuTimes.result answer ∧
      (platform p).cpuTimes.result other = (platform p).cpuTimes.result answer ∧
      (platform p).cpuStats.result other = (platform p).cpuStats.result answer ∧
      (platform p).cpuCountCores.result other = (platform p).cpuCountCores.result answer ∧
      (platform p).diskIoCounters.result other = (platform p).diskIoCounters.result answer ∧
      (platform p).netIoCounters.result other = (platform p).netIoCounters.result answer ∧
      (platform p).netStats.result other = (platform p).netStats.result answer := by
  have processors : Probe.processors.result other = Probe.processors.result answer := by
    rw [keeps.result_processors, kept.result_processors, processorsOf_eq same distinct]
  have interfaces := restsOn_interfaceFlags answer other elsewhere
  have times : p.perCpuTimes.result other = p.perCpuTimes.result answer := by
    rw [Probe.perCpuTimes, Query.result_bind_pure, Query.result_bind_pure, processors]
  have apart (table : Table Nat) : ((linksOf table shuffled).map (·.1)).Nodup :=
    ((linksOf_perm same table).map _).nodup_iff.mp (distinct.linksOf table)
  refine ⟨times, ?_, ?_, ?_, ?_, ?_, ?_⟩
  · rw [platform, Query.result_bind_pure, Query.result_bind_pure, times]
  · change Probe.cpuStats.result other = Probe.cpuStats.result answer
    rw [Probe.cpuStats, Query.result_bind, Query.result_bind, processors]
    exact bind_congr fun values => restsOn_addProcessor values {} answer other elsewhere
  · change Probe.cpuCountCores.result other = Probe.cpuCountCores.result answer
    rw [keeps.result_cpuCountCores, kept.result_cpuCountCores, coresOf_length same]
  · change Probe.diskIoCounters.result other = Probe.diskIoCounters.result answer
    rw [keeps.result_diskIoCounters, kept.result_diskIoCounters, disksOf_ofList same distinct]
  · change Probe.netIoCounters.result other = Probe.netIoCounters.result answer
    cases known : Posix.interfaceFlags.result answer with
    | error fault =>
      rw [Probe.netIoCounters, Query.result_bind, Query.result_bind, interfaces, known]
      rfl
    | ok table =>
      rw [keeps.result_netIoCounters known (distinct.linksOf table),
        kept.result_netIoCounters (interfaces.trans known) (apart table),
        Table.ofList_eq_of_perm (linksOf_perm same table) (distinct.linksOf table)]
  · change Probe.netStats.result other = Probe.netStats.result answer
    cases known : Posix.interfaceFlags.result answer with
    | error fault =>
      rw [Probe.netStats, Query.result_bind, Query.result_bind, interfaces, known]
      rfl
    | ok table =>
      rw [keeps.result_netStats known, kept.result_netStats (interfaces.trans known), interfaceState_eq same distinct]

def linkHost : (c : Call) → c.Answer
  | .posix .interfaces => .ok [{ name := some (Utf8.encode "net0".toList), flags := 0x41 }]
  | c => Host.reply {} c

def chainHost (entries : List Statistic) : (c : Call) → c.Answer
  | .kstat .chain => .ok (entries.map (·.1))
  | .kstat (.read entry) =>
    match entries.find? (·.1.id == entry.id) with
    | some s => .ok s.2
    | none => .error (.number ErrorNumber.noEntry)
  | c => linkHost c

def namedStatistic (id : Nat) (module : String) (instanceNumber : Int) (name className : String)
    (values : List (String × Nat)) : Statistic :=
  ({ id, module, instanceNumber, name, className, type := Kstat.namedType },
    some (values.flatMap fun (key, value) =>
      (Utf8.encode key.toList ++ List.replicate 31 0).take 31 ++ [4] ++ Bytes.ofNat 8 value ++ List.replicate 8 0))

def diskStatistic (id : Nat) (name : String) (bytesRead : Nat) : Statistic :=
  ({ id, module := "sd", instanceNumber := 0, name, className := "disk", type := Kstat.ioType },
    some (Bytes.ofNat 8 bytesRead ++ List.replicate 72 0))

def smallChain : List Statistic :=
  [namedStatistic 0 "cpu" 0 "sys" "misc" [("pswitch", 5), ("intr", 7), ("cpu_ticks_user", 100)],
    namedStatistic 1 "cpu" 1 "sys" "misc" [("pswitch", 6), ("intr", 8), ("cpu_ticks_user", 300)],
    namedStatistic 2 "cpu_info" 0 "cpu_info0" "misc" [("chip_id", 0), ("core_id", 0)],
    namedStatistic 3 "cpu_info" 1 "cpu_info1" "misc" [("chip_id", 0), ("core_id", 1)],
    diskStatistic 4 "sd0" 512, diskStatistic 5 "sd1" 1024,
    namedStatistic 6 "link" 0 "net0" "net" [("rbytes64", 99), ("ifspeed", 1000000000), ("link_duplex", 2)]]

/-- The same entries from the last to the first, elsewhere in memory. -/
def turnedChain : List Statistic := smallChain.reverse.map fun s => ({ s.1 with id := s.1.id + 10 }, s.2)

theorem chainHost_of_chainless (entries : List Statistic) {c : Call} (chainless : Chainless c) :
    chainHost entries c = linkHost c := by
  cases c with
  | kstat k => exact chainless.elim
  | _ => rfl

/-- A chain without two entries of one number can be read entry by entry. -/
theorem keeps_chainHost {entries : List Statistic} (distinct : (entries.map (·.1.id)).Nodup) :
    Keeps (chainHost entries) entries where
  chain := rfl
  read s member := by
    have told : chainHost entries (.kstat (.read s.1)) = match entries.find? (·.1.id == s.1.id) with
        | some s => .ok s.2
        | none => .error (.number ErrorNumber.noEntry) := rfl
    rw [told]
    cases found : entries.find? (·.1.id == s.1.id) with
    | none => exact absurd (beq_self_eq_true _) (List.find?_eq_none.mp found s member)
    | some t =>
      have asked := List.find?_some found
      have same : t.1.id = s.1.id := beq_iff_eq.mp asked
      rw [List.inj_on_of_nodup_map distinct (List.mem_of_find?_eq_some found) member same]

/-- The small chain and the turned one are told alike. -/
theorem order_unseen_turnedChain :
    (Keeps (chainHost smallChain) smallChain ∧ Keeps (chainHost turnedChain) turnedChain ∧
        (smallChain.map said).Perm (turnedChain.map said) ∧ Distinct smallChain ∧
        ∀ c, Chainless c → chainHost turnedChain c = chainHost smallChain c) ∧
      (platform default).cpuCountCores.result (chainHost turnedChain) = .ok 2 ∧
      (platform default).diskIoCounters.result (chainHost turnedChain) =
        .ok [("sd0", { readBytes := 512 }), ("sd1", { readBytes := 1024 })] ∧
      (platform default).netIoCounters.result (chainHost turnedChain) =
        .ok [("net0", { bytesReceived := 99 })] ∧
      (platform default).perCpuTimes.result (chainHost turnedChain) =
        (platform default).perCpuTimes.result (chainHost smallChain) ∧
      (platform default).cpuTimes.result (chainHost turnedChain) =
        (platform default).cpuTimes.result (chainHost smallChain) ∧
      (platform default).cpuStats.result (chainHost turnedChain) =
        (platform default).cpuStats.result (chainHost smallChain) ∧
      (platform default).netStats.result (chainHost turnedChain) =
        (platform default).netStats.result (chainHost smallChain) := by
  have keeps : Keeps (chainHost smallChain) smallChain := keeps_chainHost (by decide +kernel)
  have kept : Keeps (chainHost turnedChain) turnedChain := keeps_chainHost (by decide +kernel)
  have same : (smallChain.map said).Perm (turnedChain.map said) := by decide +kernel
  have distinct : Distinct smallChain := ⟨by decide +kernel, by decide +kernel, by decide +kernel⟩
  have elsewhere : ∀ c, Chainless c → chainHost turnedChain c = chainHost smallChain c := fun c chainless =>
    (chainHost_of_chainless _ chainless).trans (chainHost_of_chainless _ chainless).symm
  obtain ⟨times, total, stats, cores, disks, links, states⟩ :=
    order_unseen keeps kept same distinct elsewhere default
  exact ⟨⟨keeps, kept, same, distinct, elsewhere⟩, cores.trans (by decide +kernel), disks.trans (by decide +kernel),
    links.trans (by decide +kernel), times, total, stats, states⟩

end SunOS
end HostProbe
