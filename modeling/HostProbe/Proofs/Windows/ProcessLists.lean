import HostProbe.Proofs.Overflow.Slices
import HostProbe.Proofs.Text.Utf16
import HostProbe.Windows.Records
import Mathlib.Data.List.TakeWhile

/-! The kernel's list of processes. A record tells how far it is to the next one and is followed by those of its
threads; its name is told by an address and may lie anywhere in the list's bytes. -/
namespace HostProbe.Windows

open Bytes (HoldsAt HoldsRecord layOut loadWithin? loadWithin?_eq)

/-! ### Layout -/

/-- Seconds of a time in ticks, of which ten are a microsecond. -/
def ticked (ticks : Int) : Float := Float.ofInt ticks / Float.ofNat (10 ^ 7)

/-- Ticks from the beginning of 1601 to that of 1970; 89 of the years between are leap years. -/
def ticksBefore1970 : Int := (369 * 365 + 89) * 24 * 60 * 60 * 10 ^ 7

structure ListedThread where
  id : UInt64
  kernel : Int64
  user : Int64
  switches : UInt32
  state : UInt32
  waitReason : UInt32
  deriving Repr, DecidableEq

namespace ListedThread

def fields (t : ListedThread) : List (Nat × Bytes) :=
  [(0, Bytes.ofInt64 t.kernel), (8, Bytes.ofInt64 t.user), (48, Bytes.ofNat 8 t.id.toNat),
    (64, Bytes.ofNat 4 t.switches.toNat), (68, Bytes.ofNat 4 t.state.toNat), (72, Bytes.ofNat 4 t.waitReason.toNat)]

/-- A thread waits in state 5, and because it is suspended for reason 5. -/
def entry (t : ListedThread) : ThreadEntry where
  id := t.id.toNat
  user := ticked t.user.toInt
  system := ticked t.kernel.toInt
  contextSwitches := t.switches.toNat
  suspended := t.state = 5 ∧ t.waitReason = 5

end ListedThread

/-- A process as the kernel counts it. Its name has no zero, and its length in bytes is told in 16 bits. -/
structure ListedProcess where
  pid : Int32
  parent : Int32
  name : String
  nameAddress : UInt64
  created : Int64
  kernel : Int64
  user : Int64
  handles : UInt32
  faults : UInt32
  peakWorkingSet : UInt64
  workingSet : UInt64
  pagefile : UInt64
  reads : Int64
  writes : Int64
  readBytes : Int64
  writtenBytes : Int64
  threads : List ListedThread
  free : '\x00' ∉ name.toList
  named : 2 * (Utf16.encode name.toList).length < 2 ^ 16
  counted : threads.length < 2 ^ 32

namespace ListedProcess

variable (p : ListedProcess)

def nameBytes : Bytes := Utf16.bytes (Utf16.encode p.name.toList)

/-- Fields of the record that has another one so many bytes behind it. Identifiers take the lower half of theirs. -/
def fields (next : UInt32) : List (Nat × Bytes) :=
  [(0, Bytes.ofNat 4 next.toNat), (4, Bytes.ofNat 4 p.threads.length), (32, Bytes.ofInt64 p.created),
    (40, Bytes.ofInt64 p.user), (48, Bytes.ofInt64 p.kernel), (56, Bytes.ofNat 2 p.nameBytes.length),
    (64, Bytes.ofNat 8 p.nameAddress.toNat), (80, Bytes.ofInt32 p.pid), (88, Bytes.ofInt32 p.parent),
    (96, Bytes.ofNat 4 p.handles.toNat), (128, Bytes.ofNat 4 p.faults.toNat),
    (136, Bytes.ofNat 8 p.peakWorkingSet.toNat), (144, Bytes.ofNat 8 p.workingSet.toNat),
    (184, Bytes.ofNat 8 p.pagefile.toNat), (208, Bytes.ofInt64 p.reads), (216, Bytes.ofInt64 p.writes),
    (232, Bytes.ofInt64 p.readBytes), (240, Bytes.ofInt64 p.writtenBytes)]

/-- The bytes that lie at an address have the process's record at the offset, the records of its threads behind it, and
its name where the record tells. The idle process has no name. -/
structure LiesAt (bytes : Bytes) (address offset : Nat) (next : UInt32) : Prop where
  record : HoldsRecord bytes offset 256 (p.fields next)
  threads : ∀ i (within : i < p.threads.length), HoldsRecord bytes (offset + 256 + i * 80) 80 p.threads[i].fields
  name : p.pid ≠ 0 → p.name = "" ∨ address ≤ p.nameAddress.toNat ∧
    HoldsAt bytes (p.nameAddress.toNat - address) p.nameBytes

def entry : ProcessEntry where
  pid := p.pid.toInt
  parent := p.parent.toInt
  name := if p.pid = 0 then "System Idle Process" else p.name
  threadCount := p.threads.length
  createTime := if 0 < p.created.toInt then ticked (p.created.toInt - ticksBefore1970) else 0.0
  cpuTimes := { user := ticked p.user.toInt, system := ticked p.kernel.toInt }
  memory := {
    rss := p.workingSet.toNat, vms := p.pagefile.toNat, pageFaults := some p.faults.toNat
    peakRss := some p.peakWorkingSet.toNat }
  io := {
    readCount := p.reads.toInt.toNat, writeCount := p.writes.toInt.toNat, readBytes := p.readBytes.toInt.toNat
    writeBytes := p.writtenBytes.toInt.toNat }
  handles := p.handles.toNat
  threads := p.threads.map ListedThread.entry

end ListedProcess

/-- The bytes that lie at an address have a list of processes at an offset, which ends with a record that tells no
distance or where no record fits. -/
inductive Chained (bytes : Bytes) (address : Nat) : Nat → List ListedProcess → Prop
  | none {offset : Nat} (short : bytes.length < offset + 256) : Chained bytes address offset []
  | last {offset : Nat} (p : ListedProcess) (lies : p.LiesAt bytes address offset 0) :
      Chained bytes address offset [p]
  | next {offset : Nat} (p : ListedProcess) {others : List ListedProcess} (distance : UInt32) (far : distance ≠ 0)
      (lies : p.LiesAt bytes address offset distance)
      (behind : Chained bytes address (offset + distance.toNat) others) : Chained bytes address offset (p :: others)

/-! ### Reading records back -/

theorem seconds_eq (ticks : Int) : seconds ticks = ticked ticks := by
  have rate : ticksPerSecond = Float.ofNat (10 ^ 7) := by decide +kernel
  rw [seconds, rate, ticked, Real.ofInt]

theorem unixEpoch_eq : unixEpoch = ticksBefore1970 := by decide

/-- Behind a record, the threads that fit are read. -/
theorem ProcessEntry.threadsIn_eq (bytes : Bytes) (offset count : Nat) :
    ProcessEntry.threadsIn (bytes.drop offset) count =
      (List.range (min count ((bytes.length - (offset + 256)) / 80))).map fun i =>
        ThreadEntry.layout.read ((bytes.drop (offset + 256 + i * 80)).take 80) := by
  have number : (((bytes.drop offset).drop 256).take (count * 80)).length / 80 =
      min count ((bytes.length - (offset + 256)) / 80) := by
    rw [List.length_take, List.length_drop, List.length_drop]
    omega
  have size : ThreadEntry.layout.size = 80 := rfl
  rw [ProcessEntry.threadsIn, RecordLayout.all, ProcessEntry.size, size, Bytes.records_eq (by decide), number,
    List.map_map]
  refine List.map_congr_left fun i member => ?_
  have within := Nat.lt_of_lt_of_le (List.mem_range.mp member) (Nat.min_le_left _ _)
  rw [Function.comp_apply, List.drop_take, List.take_take, Nat.min_eq_left (by omega), List.drop_drop, List.drop_drop,
    Nat.add_assoc]

namespace ListedThread

theorem fields_inside (t : ListedThread) : ∀ field ∈ t.fields, field.1 + field.2.length ≤ 80 := by
  simp [fields, Bytes.length_ofNat]

/-- A record of a thread is read as the thread that it was written for. -/
theorem read_record {t : ListedThread} {bytes : Bytes} {offset : Nat} (record : HoldsRecord bytes offset 80 t.fields) :
    ThreadEntry.layout.read ((bytes.drop offset).take 80) = t.entry := by
  have held {i place : Nat} {field : Bytes} (there : t.fields[i]? = some (place, field)) :
      HoldsAt ((bytes.drop offset).take 80) place field := record.held t.fields_inside there
  have kernel := (held (i := 0) rfl).intAt_ofInt64
  have user := (held (i := 1) rfl).intAt_ofInt64
  have id := (held (i := 2) rfl).natAt_ofNat t.id.toNat_lt
  have switches := (held (i := 3) rfl).natAt_ofNat t.switches.toNat_lt
  have state := (held (i := 4) rfl).natAt_ofNat t.state.toNat_lt
  have reason := (held (i := 5) rfl).natAt_ofNat t.waitReason.toNat_lt
  have five (n : UInt32) : (n.toNat == 5) = decide (n = 5) := by
    rw [Bool.eq_iff_iff, beq_iff_eq, decide_eq_true_iff, ← UInt32.toNat_inj]
    rfl
  simp only [ThreadEntry.layout, kernel, user, id, switches, state, reason, entry, five, Bool.decide_and, seconds_eq]

end ListedThread

namespace ListedProcess

variable {p : ListedProcess} {bytes : Bytes} {address offset : Nat} {next : UInt32}

theorem length_nameBytes (p : ListedProcess) : p.nameBytes.length < 2 ^ 16 := by
  have pairs : p.nameBytes.length = 2 * (Utf16.encode p.name.toList).length := by
    rw [nameBytes, Utf16.bytes, List.length_flatMap]
    simp [Nat.mul_comm]
  exact pairs ▸ p.named

theorem fields_inside (p : ListedProcess) (next : UInt32) :
    ∀ field ∈ p.fields next, field.1 + field.2.length ≤ 256 := by
  simp [fields, Bytes.length_ofNat]

/-- The threads of a process lie behind its record. -/
theorem LiesAt.threadsIn (lies : p.LiesAt bytes address offset next) :
    ProcessEntry.threadsIn (bytes.drop offset) p.threads.length = p.threads.map ListedThread.entry := by
  have room : p.threads.length ≤ (bytes.length - (offset + 256)) / 80 := by
    by_contra less
    have last := (lies.threads (p.threads.length - 1) (by omega)).1
    omega
  rw [ProcessEntry.threadsIn_eq, Nat.min_eq_left room]
  refine List.ext_getElem (by rw [List.length_map, List.length_map, List.length_range]) fun i within _ => ?_
  rw [List.length_map, List.length_range] at within
  rw [List.getElem_map, List.getElem_map, List.getElem_range]
  exact ListedThread.read_record (lies.threads i within)

theorem wideText_nameBytes (p : ListedProcess) : wideText (unitsOfBytes p.nameBytes) = p.name := by
  have units := unitsOfBytes_bytes (Utf16.encode p.name.toList) []
  have zeroless : ∀ u ∈ Utf16.encode p.name.toList, (u != 0) = true := fun u member =>
    bne_iff_ne.mpr fun zero => Utf16.zero_notMem_encode p.free (zero ▸ member)
  have none : unitsOfBytes [] = [] := rfl
  rw [none, List.append_nil, List.append_nil] at units
  rw [nameBytes, units, wideText, untilZero, List.takeWhile_eq_self_iff.mpr zeroless, Utf16.toString_encode,
    String.ofList_toList]

/-- A name is read from where it is, and an empty one from anywhere. -/
theorem LiesAt.text? (lies : p.LiesAt bytes address offset next) (busy : p.pid ≠ 0) :
    (StringPlace.text? ⟨p.nameBytes.length, p.nameAddress.toNat⟩ bytes address).getD "" = p.name := by
  by_cases empty : p.nameBytes = []
  · have unnamed : p.name = "" := by
      rw [← p.wideText_nameBytes, empty]
      rfl
    rw [StringPlace.text?, empty, unnamed]
    split
    · rfl
    · cases read : Bytes.slice? bytes (p.nameAddress.toNat - address) 0 with
      | none => rfl
      | some field =>
        rw [List.length_eq_zero_iff.mp (Bytes.length_of_slice? read)]
        rfl
  · rcases lies.name busy with unnamed | ⟨above, there⟩
    · exact absurd (by rw [nameBytes, unnamed]; rfl) empty
    · rw [StringPlace.text?, if_neg (Nat.not_lt.mpr above), there.slice? rfl (List.length_pos_iff.mpr empty),
        Option.map_some, Option.getD_some, p.wideText_nameBytes]

/-- The process that idles is shown by a name of its own, and others by theirs. -/
theorem LiesAt.shown (lies : p.LiesAt bytes address offset next) :
    (if p.pid.toInt = 0 then ProcessEntry.idleName
      else (StringPlace.text? ⟨p.nameBytes.length, p.nameAddress.toNat⟩ bytes address).getD "") =
      if p.pid = 0 then "System Idle Process" else p.name := by
  have zero : p.pid.toInt = 0 ↔ p.pid = 0 := by
    rw [← Int32.toInt_inj]
    rfl
  by_cases idle : p.pid = 0
  · rw [if_pos idle, if_pos (zero.mpr idle), ProcessEntry.idleName]
  · rw [if_neg idle, if_neg (mt zero.mp idle), lies.text? idle]

/-- A record of a process is read as the process that it was written for. -/
theorem LiesAt.read (lies : p.LiesAt bytes address offset next) :
    ProcessEntry.read bytes address (bytes.drop offset) = p.entry := by
  have held {i place : Nat} {field : Bytes} (there : (p.fields next)[i]? = some (place, field)) :
      HoldsAt ((bytes.drop offset).take 256) place field := lies.record.held (p.fields_inside next) there
  have count := (held (i := 1) rfl).natAt_ofNat p.counted
  have created := (held (i := 2) rfl).intAt_ofInt64
  have user := (held (i := 3) rfl).intAt_ofInt64
  have kernel := (held (i := 4) rfl).intAt_ofInt64
  have nameLength := (held (i := 5) rfl).natAt_ofNat p.length_nameBytes
  have namePlace := (held (i := 6) rfl).natAt_ofNat p.nameAddress.toNat_lt
  have pid := (held (i := 7) rfl).intAt_ofInt32
  have parent := (held (i := 8) rfl).intAt_ofInt32
  have handles := (held (i := 9) rfl).natAt_ofNat p.handles.toNat_lt
  have faults := (held (i := 10) rfl).natAt_ofNat p.faults.toNat_lt
  have peak := (held (i := 11) rfl).natAt_ofNat p.peakWorkingSet.toNat_lt
  have working := (held (i := 12) rfl).natAt_ofNat p.workingSet.toNat_lt
  have pagefile := (held (i := 13) rfl).natAt_ofNat p.pagefile.toNat_lt
  have reads := (held (i := 14) rfl).intAt_ofInt64
  have writes := (held (i := 15) rfl).intAt_ofInt64
  have readBytes := (held (i := 16) rfl).intAt_ofInt64
  have writtenBytes := (held (i := 17) rfl).intAt_ofInt64
  simp only [ProcessEntry.read, ProcessEntry.size, Bytes.toInt_natAt, StringPlace.layout, Bytes.natAt_drop,
    Nat.add_zero, Nat.reduceAdd, ProcessEntry.counter, count, created, user, kernel, nameLength, namePlace, pid, parent,
    handles, faults, peak, working, pagefile, reads, writes, readBytes, writtenBytes, entry, seconds_eq, unixEpoch_eq]
  rw [lies.threadsIn, lies.shown]

end ListedProcess

section listing

variable {bytes : Bytes} {address offset : Nat}

private theorem listFrom_short (short : bytes.length < offset + 256) (found : List ProcessEntry) :
    ProcessEntry.listFrom bytes address (bytes.drop offset) found = found.reverse := by
  rw [ProcessEntry.listFrom, ProcessEntry.size, if_pos]
  rw [List.length_take, List.length_drop]
  omega

private theorem listFrom_record (room : offset + 256 ≤ bytes.length) (found : List ProcessEntry) :
    ProcessEntry.listFrom bytes address (bytes.drop offset) found =
      if Bytes.natAt bytes offset 4 = 0 then (ProcessEntry.read bytes address (bytes.drop offset) :: found).reverse
      else ProcessEntry.listFrom bytes address (bytes.drop (offset + Bytes.natAt bytes offset 4))
        (ProcessEntry.read bytes address (bytes.drop offset) :: found) := by
  have whole : ¬((bytes.drop offset).take 256).length < 256 := by
    rw [List.length_take, List.length_drop]
    omega
  rw [ProcessEntry.listFrom, ProcessEntry.size, if_neg whole]
  simp only [Bytes.natAt_drop, Nat.add_zero, List.drop_drop]

/-- The processes of a chain are listed in order. -/
theorem Chained.listFrom {processes : List ListedProcess} (chained : Chained bytes address offset processes)
    (found : List ProcessEntry) : ProcessEntry.listFrom bytes address (bytes.drop offset) found =
      found.reverse ++ processes.map ListedProcess.entry := by
  have told {p : ListedProcess} {offset : Nat} {next : UInt32} (lies : p.LiesAt bytes address offset next) :
      Bytes.natAt bytes offset 4 = next.toNat :=
    (lies.record.2 _ List.mem_cons_self).natAt_ofNat next.toNat_lt
  induction chained generalizing found with
  | none short => rw [listFrom_short short, List.map_nil, List.append_nil]
  | last p lies =>
    rw [listFrom_record lies.record.1, told lies, if_pos UInt32.toNat_zero, lies.read, List.reverse_cons,
      List.map_singleton]
  | next p distance far lies behind ih =>
    have onward : distance.toNat ≠ 0 := fun zero => far (UInt32.toNat_inj.mp zero)
    rw [listFrom_record lies.record.1, told lies, if_neg onward, lies.read, ih, List.reverse_cons, List.append_assoc,
      List.map_cons, List.singleton_append]

end listing

/-! ### The walk in machine words

The same walk as it runs on words and on memory: each sum, product and difference is one of words, and a read outside
of the bytes is an abort. -/

def loadThreads (bytes : Bytes) (offset count : Nat) : Outcome (List ThreadEntry) := do
  let found ← (List.range count).mapM fun i => do
    loadWithin? bytes (← Word.add (← Word.add offset 256) (← Word.mul i 80)) 80
  return found.filterMap (·.map ThreadEntry.layout.read)

def loadText? (s : StringPlace) (bytes : Bytes) (address : Nat) : Outcome (Option String) := do
  if s.address < address then return none
  return (← loadWithin? bytes (s.address - address) s.length).map fun b => wideText (unitsOfBytes b)

def loadCreateTime (b : Bytes) : Outcome Float :=
  let created := Bytes.intAt b 32 8
  if created > 0 then unixTime created else return 0.0

def loadEntry (bytes : Bytes) (address offset : Nat) (b : Bytes) : Outcome ProcessEntry := do
  let threads ← loadThreads bytes offset (Bytes.natAt b 4 4)
  let name ← loadText? (StringPlace.layout.read (b.drop 56)) bytes address
  let createTime ← loadCreateTime b
  let entry := ProcessEntry.read bytes address b
  return { entry with threads, createTime, name := if entry.pid = 0 then ProcessEntry.idleName else name.getD "" }

def loadList (bytes : Bytes) (address : Nat) : Nat → Nat → List ProcessEntry → Outcome (List ProcessEntry)
  | 0, _, _ => Outcome.abort
  | steps + 1, offset, found => do
    match ← loadWithin? bytes offset ProcessEntry.size with
    | none => return found.reverse
    | some b =>
      let found := (← loadEntry bytes address offset b) :: found
      if Bytes.natAt b 0 4 = 0 then return found.reverse
      loadList bytes address steps (← Word.add offset (Bytes.natAt b 0 4)) found

section loading

variable {bytes : Bytes} {address offset : Nat}

theorem loadText?_eq (held : bytes.length < Word.span) (s : StringPlace) :
    loadText? s bytes address = .ok (s.text? bytes address) := by
  rw [loadText?, StringPlace.text?, Bytes.slice?_eq]
  split
  · rfl
  · rw [loadWithin?_eq held]
    rfl

private theorem filterMap_range {α : Type} (n m : Nat) (f : Nat → α) :
    ((List.range n).filterMap fun i => if i < m then some (f i) else none) = (List.range (min n m)).map f := by
  induction n with
  | zero => rw [Nat.zero_min]; rfl
  | succ n ih =>
    rw [List.range_succ, List.filterMap_append, ih]
    by_cases below : n < m
    · simp only [List.filterMap_cons, List.filterMap_nil, if_pos below]
      rw [Nat.min_eq_left (Nat.le_of_lt below), Nat.min_eq_left below, List.range_succ, List.map_append,
        List.map_singleton]
    · simp only [List.filterMap_cons, List.filterMap_nil, if_neg below, List.append_nil]
      rw [Nat.min_eq_right (Nat.not_lt.mp below), Nat.min_eq_right (Nat.le_succ_of_le (Nat.not_lt.mp below))]

/-- Reading threads by positions never leaves the bytes. -/
theorem loadThreads_eq (held : bytes.length < 2 ^ 63) (near : offset < 2 ^ 63) {count : Nat}
    (counted : count < 2 ^ 32) :
    loadThreads bytes offset count = .ok (ProcessEntry.threadsIn (bytes.drop offset) count) := by
  have word : Word.span = 2 ^ 64 := rfl
  have thread (i : Nat) (member : i ∈ List.range count) : (do
      loadWithin? bytes (← Word.add (← Word.add offset 256) (← Word.mul i 80)) 80) =
      .ok (if i < (bytes.length - (offset + 256)) / 80 then some ((bytes.drop (offset + 256 + i * 80)).take 80)
        else none) := by
    have below := List.mem_range.mp member
    have fits : offset + 256 + i * 80 + 80 ≤ bytes.length ↔ i < (bytes.length - (offset + 256)) / 80 := by omega
    rw [Word.add_of_lt (by omega), Word.mul_of_lt (by omega)]
    change (do loadWithin? bytes (← Word.add (offset + 256) (i * 80)) 80) = _
    rw [Word.add_of_lt (by omega)]
    change loadWithin? bytes (offset + 256 + i * 80) 80 = _
    rw [loadWithin?_eq (by omega)]
    exact congrArg Except.ok (if_congr fits rfl rfl)
  rw [loadThreads, Outcome.mapM_eq_ok thread, ProcessEntry.threadsIn_eq, ← filterMap_range]
  change Except.ok (List.filterMap _ (List.map _ _)) = _
  rw [List.filterMap_map]
  refine congrArg Except.ok (List.filterMap_congr fun i _ => ?_)
  rw [Function.comp_apply, apply_ite (Option.map _)]
  rfl

/-- A time after 1601 is not so early that the ticks since 1970 leave the word. -/
theorem loadCreateTime_eq (b : Bytes) : loadCreateTime b =
    .ok (if Bytes.intAt b 32 8 > 0 then seconds (Bytes.intAt b 32 8 - unixEpoch) else 0.0) := by
  have below : Bytes.intAt b 32 8 < 2 ^ 63 := Int.bmod_lt (by decide)
  rw [loadCreateTime]
  split
  case isTrue late =>
    have fits : Word.checkSigned 64 (Bytes.intAt b 32 8 - unixEpoch) = .ok (Bytes.intAt b 32 8 - unixEpoch) := by
      rw [unixEpoch]
      exact if_pos ⟨by simp; omega, by simp; omega⟩
    rw [unixTime, fits]
    rfl
  case isFalse early => rfl

/-- Reading a record by positions never leaves the bytes. -/
theorem loadEntry_eq (held : bytes.length < 2 ^ 63) (room : offset + 256 ≤ bytes.length) :
    loadEntry bytes address offset ((bytes.drop offset).take 256) =
      .ok (ProcessEntry.read bytes address (bytes.drop offset)) := by
  have counted : Bytes.natAt ((bytes.drop offset).take 256) 4 4 < 2 ^ 32 := Bytes.natAt_lt _ 4 4
  have memory : bytes.length < Word.span := Nat.lt_trans held (by decide)
  rw [loadEntry, loadThreads_eq held (by omega) counted, loadText?_eq memory, loadCreateTime_eq]
  refine congrArg Except.ok ?_
  simp only [ProcessEntry.read, ProcessEntry.size, List.take_take, Nat.min_self]
  rfl

/-- The walk ends within its steps, and lists what the list is read as. -/
theorem loadList_eq (held : bytes.length < 2 ^ 63) {steps : Nat} (begun : 0 < steps)
    (enough : bytes.length < offset + steps) (near : offset < 2 ^ 63 + 2 ^ 32) (found : List ProcessEntry) :
    loadList bytes address steps offset found =
      .ok (ProcessEntry.listFrom bytes address (bytes.drop offset) found) := by
  have memory : bytes.length < Word.span := Nat.lt_trans held (by decide)
  induction steps generalizing offset found with
  | zero => exact absurd begun (Nat.lt_irrefl 0)
  | succ steps ih =>
    rw [loadList, loadWithin?_eq memory, ProcessEntry.size]
    by_cases room : offset + 256 ≤ bytes.length
    · have next : Bytes.natAt ((bytes.drop offset).take 256) 0 4 = Bytes.natAt bytes offset 4 := by
        rw [Bytes.natAt, Bytes.natAt, List.drop_zero, List.take_take]
        rfl
      have distance := Bytes.natAt_lt bytes offset 4
      rw [if_pos room, listFrom_record room]
      change (do
        let found := (← loadEntry bytes address offset ((bytes.drop offset).take 256)) :: found
        if Bytes.natAt ((bytes.drop offset).take 256) 0 4 = 0 then return found.reverse
        loadList bytes address steps (← Word.add offset (Bytes.natAt ((bytes.drop offset).take 256) 0 4)) found) = _
      rw [loadEntry_eq held room, next]
      change (if Bytes.natAt bytes offset 4 = 0 then _ else do
        loadList bytes address steps (← Word.add offset (Bytes.natAt bytes offset 4)) _) = _
      by_cases last : Bytes.natAt bytes offset 4 = 0
      · rw [if_pos last, if_pos last]
        rfl
      · rw [if_neg last, if_neg last, Word.add_of_lt (Nat.lt_of_lt_of_le (m := 2 ^ 63 + 2 ^ 32) (by omega) (by decide))]
        exact ih (by omega) (by omega) (by omega) _
    · rw [if_neg room, listFrom_short (Nat.not_le.mp room)]
      rfl

end loading

/-- A list of processes that are laid out in the bytes is read back. Whatever the bytes are, of which memory holds fewer
than 2^63, the walk ends, and no read leaves them and no sum or difference its word. -/
theorem processList_read (bytes : Bytes) (address : Nat) :
    (∀ processes, Chained bytes address 0 processes →
      ProcessEntry.list bytes address = processes.map ListedProcess.entry) ∧
      (bytes.length < 2 ^ 63 →
        loadList bytes address (bytes.length + 1) 0 [] = .ok (ProcessEntry.list bytes address)) := by
  refine ⟨fun processes chained => ?_, fun held => ?_⟩
  · exact chained.listFrom []
  · exact loadList_eq held (Nat.succ_pos _) (by omega) (by decide) []

def idleProcess : ListedProcess where
  pid := 0
  parent := 0
  name := ""
  nameAddress := 0
  created := 0
  kernel := 0
  user := 0
  handles := 0
  faults := 0
  peakWorkingSet := 0
  workingSet := 0
  pagefile := 0
  reads := 0
  writes := 0
  readBytes := 0
  writtenBytes := 0
  threads := [⟨8, 5000000, 20000000, 3, 5, 5⟩]
  free := by decide
  named := by decide
  counted := by decide

/-- A process of the first moment of 2024 whose name lies behind all records. -/
def namedProcess : ListedProcess :=
  { idleProcess with
    pid := 42, parent := 7, name := "app.exe", nameAddress := 0x10250, workingSet := 4096, threads := []
    created := 133485408000000000, kernel := 7500000, user := 30000000
    free := by decide, named := by decide, counted := by decide }

def twoProcesses : Bytes :=
  layOut 256 (idleProcess.fields 336) ++ idleProcess.threads.flatMap (layOut 80 ·.fields) ++
    layOut 256 (namedProcess.fields 0) ++ namedProcess.nameBytes

theorem chained_twoProcesses : Chained twoProcesses 0x10000 0 [idleProcess, namedProcess] := by
  have idle : idleProcess.LiesAt twoProcesses 0x10000 0 336 :=
    ⟨by decide +kernel, by decide +kernel, fun busy => absurd rfl busy⟩
  have named : namedProcess.LiesAt twoProcesses 0x10000 336 0 :=
    ⟨by decide +kernel, nofun, fun _ => .inr ⟨by decide, by decide +kernel⟩⟩
  exact .next _ 336 (by decide) idle (.last _ named)

/-- Two processes of the list, with their times in seconds since 1970. -/
theorem processList_read_twoProcesses : Chained twoProcesses 0x10000 0 [idleProcess, namedProcess] ∧
    ProcessEntry.list twoProcesses 0x10000 = [idleProcess.entry, namedProcess.entry] ∧
    (ProcessEntry.list twoProcesses 0x10000).map (·.createTime) = [0.0, 1704067200.0] ∧
    (ProcessEntry.list twoProcesses 0x10000).map (fun e => (e.cpuTimes.user, e.cpuTimes.system)) =
      [(0.0, 0.0), (3.0, 0.75)] ∧
    ((ProcessEntry.list twoProcesses 0x10000).flatMap (·.threads)).map (fun t => (t.user, t.system)) = [(2.0, 0.5)] ∧
    twoProcesses.length < 2 ^ 63 ∧ loadList twoProcesses 0x10000 (twoProcesses.length + 1) 0 [] =
      .ok (ProcessEntry.list twoProcesses 0x10000) := by
  have short : twoProcesses.length < 2 ^ 63 := by decide +kernel
  have list := (processList_read twoProcesses 0x10000).1 _ chained_twoProcesses
  refine ⟨chained_twoProcesses, list, ?_, ?_, ?_, short, (processList_read _ _).2 short⟩
  · rw [list]
    decide +kernel
  · rw [list]
    decide +kernel
  · rw [list]
    decide +kernel

end HostProbe.Windows
