import HostProbe.Linux
import HostProbe.Proofs.Files
import HostProbe.Proofs.Overflow.Footprints

/-! Queries about memory, disks and traffic on Linux, and the figures in the files that they read. A query gives up just
where a figure that it makes of the texts, told exactly, is too large for a word; in all other cases there is an answer
or an error. -/
namespace HostProbe

open Procfs (StatesExcess statedMeminfo MemoryExcess SwapsExcess DisksExcess PeakExcess MappingsExcess)

namespace Query

variable {α β : Type} {answer : (c : Call) → c.Answer}

theorem result_bind_eq_abort_iff {query : Query α} {f : α → Query β} :
    (query >>= f).result answer = .error .abort ↔ query.result answer = .error .abort ∨
      ∃ a, query.result answer = .ok a ∧ (f a).result answer = .error .abort := by
  rw [result_bind]
  exact Outcome.bind_eq_abort_iff

/-- What follows a spared query decides. -/
theorem Spared.bind_eq_abort_iff {query : Query α} (spared : query.Spared answer) {f : α → Query β} :
    (query >>= f).result answer = .error .abort ↔
      ∃ a, query.result answer = .ok a ∧ (f a).result answer = .error .abort := by
  rw [result_bind_eq_abort_iff]
  exact or_iff_right spared

theorem result_classifyFor_eq_abort_iff {live : Liveness Program} {pid : Pid} {query : Query α} :
    result answer (live.classifyFor pid query) = .error .abort ↔ query.result answer = .error .abort := by
  rw [result_classifyFor]
  cases query.result answer with
  | ok a => exact ⟨nofun, nofun⟩
  | error fault => cases fault <;> simp

/-- A part that may fail goes on with or without its answer. -/
theorem Spared.bind_answer?_eq_abort_iff {query : Query α} (spared : query.Spared answer) {f : Option α → Query β} :
    (query.answer? >>= f).result answer = .error .abort ↔
      (∃ a, query.result answer = .ok a ∧ (f (some a)).result answer = .error .abort) ∨
        (∀ a, query.result answer ≠ .ok a) ∧ (f none).result answer = .error .abort := by
  rw [result_bind, result_answer?]
  rw [Spared] at spared
  cases ended : query.result answer with
  | ok a =>
    constructor
    · exact fun later => .inl ⟨a, rfl, later⟩
    · rintro (⟨_, ⟨⟩, later⟩ | ⟨none, -⟩)
      · exact later
      · exact absurd rfl (none a)
  | error fault =>
    cases fault with
    | abort => exact absurd ended spared
    | report error =>
      constructor
      · refine fun later => .inr ⟨?_, later⟩
        rintro _ ⟨⟩
      · rintro (⟨_, ⟨⟩, -⟩ | ⟨-, later⟩)
        exact later

end Query

namespace Procfs

variable {answer : (c : Call) → c.Answer}

theorem readText_spared (path : String) : (readText path).Spared answer := by
  rw [Query.Spared, readText, Query.result_onPath]
  split
  · rintro ⟨⟩
  · rintro ⟨⟩

end Procfs

namespace Linux

variable {answer : (c : Call) → c.Answer} (p : Probe) (pid : Pid)

namespace Probe

theorem read_spared (name : String) : (p.procfs.read name).Spared answer := Procfs.readText_spared _

theorem processText_spared (name : String) : (p.processText pid name).Spared answer := by
  have checked : checkPid pid ≠ .error .abort := by
    rw [checkPid]
    split <;> exact nofun
  exact .bind (.lift checked) fun _ _ => .classifyFor (Procfs.readText_spared _)

theorem processRecord_eq_abort_iff {α : Type} {name : String} {parse : Text → Outcome α} :
    (p.processRecord pid name parse).result answer = .error .abort ↔
      ∃ text, (p.processText pid name).result answer = .ok text ∧ parse text = .error .abort := by
  rw [processRecord, (p.processText_spared pid name).bind_eq_abort_iff]
  simp only [Query.result_classifyFor_eq_abort_iff, Query.result_lift]

theorem bind_meminfo_eq_abort_iff {α : Type} {rest : Table Nat → Query α} :
    (p.meminfo >>= rest).result answer = .error .abort ↔ ∃ text, (p.procfs.read "meminfo").result answer = .ok text ∧
      (StatesExcess text ∨ (rest (statedMeminfo text)).result answer = .error .abort) := by
  rw [meminfo, bind_assoc, (p.read_spared "meminfo").bind_eq_abort_iff]
  simp only [Query.result_bind, Query.result_lift, Procfs.bind_parseMeminfo_eq_abort_iff]

theorem virtualMemory_eq_abort_iff : p.virtualMemory.result answer = .error .abort ↔
    ∃ text, (p.procfs.read "meminfo").result answer = .ok text ∧ MemoryExcess text := by
  rw [virtualMemory, bind_meminfo_eq_abort_iff]
  simp only [Query.result_lift, Procfs.virtualMemory_eq_abort_iff, MemoryExcess]

/-- The query aborts exactly where one of its files states too much. -/
theorem swapMemory_eq_abort_iff : p.swapMemory.result answer = .error .abort ↔
    ∃ text, (p.procfs.read "meminfo").result answer = .ok text ∧ (StatesExcess text ∨
      ((statedMeminfo text).get? "SwapTotal").isSome ∧ ∃ vmstat, (p.procfs.read "vmstat").result answer = .ok vmstat ∧
        SwapsExcess p.pageSize (Procfs.parseVmstat vmstat)) := by
  rw [swapMemory, bind_meminfo_eq_abort_iff]
  refine exists_congr fun text => and_congr_right fun _ => or_congr_right ?_
  rw [(p.read_spared "vmstat").bind_answer?_eq_abort_iff]
  simp only [Query.result_lift, Procfs.swapMemory_eq_abort_iff, Option.map_some, Option.map_none, Option.mem_some_iff,
    exists_eq_left', Option.not_mem_none, false_and, exists_false, and_false, or_false]
  exact ⟨fun ⟨counts, read, known, excess⟩ => ⟨known, counts, read, excess⟩,
    fun ⟨known, counts, read, excess⟩ => ⟨counts, read, known, excess⟩⟩

/-- The query aborts exactly where pages or the peak are too large in bytes. -/
theorem memoryInfo_eq_abort_iff : (p.memoryInfo pid).result answer = .error .abort ↔
    ∃ statm stat, (p.processRecord pid "statm" Procfs.Statm.parse).result answer = .ok statm ∧
      (p.processStat pid).result answer = .ok stat ∧
        ((∃ status, (p.processText pid "status").result answer = .ok status ∧ PeakExcess status) ∨
          PagesExcess p.pageSize statm stat) := by
  have statm : (p.processRecord pid "statm" Procfs.Statm.parse).Spared answer := by
    rw [Query.Spared, ne_eq, processRecord_eq_abort_iff]
    rintro ⟨text, -, aborted⟩
    exact Procfs.Statm.parse_ne_abort text aborted
  have stat : (p.processStat pid).Spared answer := by
    rw [Query.Spared, ne_eq, processStat, processRecord_eq_abort_iff]
    rintro ⟨text, -, aborted⟩
    exact Procfs.ProcessStat.parse_ne_abort text aborted
  rw [memoryInfo, statm.bind_eq_abort_iff]
  simp only [stat.bind_eq_abort_iff, exists_and_left]
  refine exists_congr fun statm => and_congr_right fun _ => exists_congr fun stat => and_congr_right fun _ => ?_
  have pages (peak : Option Nat) :
      p.memoryOfPages statm stat peak = .error .abort ↔ PagesExcess p.pageSize statm stat :=
    memoryOfPages_eq_abort_iff
  rw [(p.processText_spared pid "status").bind_answer?_eq_abort_iff]
  simp only [pure_bind, Query.result_bind, Query.result_lift, Procfs.bind_statusAmount_eq_abort_iff pages, pages]
  constructor
  · rintro (⟨status, read, peak | excess⟩ | ⟨-, excess⟩)
    · exact .inl ⟨status, read, peak⟩
    · exact .inr excess
    · exact .inr excess
  · rintro (⟨status, read, peak⟩ | excess)
    · exact .inl ⟨status, read, .inl peak⟩
    · by_cases read : ∃ status, (p.processText pid "status").result answer = .ok status
      · obtain ⟨status, read⟩ := read
        exact .inl ⟨status, read, .inr excess⟩
      · exact .inr ⟨fun status found => read ⟨status, found⟩, excess⟩

end Probe

theorem diskIoCounters_eq_abort_iff : (platform p).diskIoCounters.result answer = .error .abort ↔
    ∃ text, (p.procfs.read "diskstats").result answer = .ok text ∧ DisksExcess text := by
  have query : (platform p).diskIoCounters =
      p.procfs.read "diskstats" >>= fun text => Query.lift (Procfs.parseDiskstats text) := rfl
  rw [query, (p.read_spared "diskstats").bind_eq_abort_iff]
  simp only [Query.result_lift, Procfs.parseDiskstats_eq_abort_iff]

theorem ioCounters_eq_abort_iff : ((platform p).ioCounters pid).result answer = .error .abort ↔
    ∃ text, (p.processText pid "io").result answer = .ok text ∧ StatesExcess text := by
  have query : (platform p).ioCounters pid = p.processRecord pid "io" Procfs.parseIo := rfl
  simp only [query, Probe.processRecord_eq_abort_iff, Procfs.parseIo_eq_abort_iff]

theorem memoryMaps_eq_abort_iff : ((platform p).memoryMaps pid).result answer = .error .abort ↔
    ∃ text, (p.processText pid "smaps").result answer = .ok text ∧ MappingsExcess text := by
  have query : (platform p).memoryMaps pid = p.processRecord pid "smaps" Procfs.parseSmaps := rfl
  simp only [query, Probe.processRecord_eq_abort_iff, Procfs.parseSmaps_eq_abort_iff]

end Linux

namespace Footprint

variable {σ : Type} {host : (c : Call) → StateM σ c.Answer} {q : Querier}

/-- A reader of a file gives up just where the file states too much. -/
theorem gives_abort_iff {path : String} (chosen : q.path? = some path) {found : Found} (there : found.At host path) :
    q.footprint.Gives host fun out => out.1 = .error .abort ↔ found.Excess := by
  intro state
  have given := gives_found chosen there state
  dsimp only at given ⊢
  rw [given]
  exact found.footprint_eq_abort_iff

/-- A reader of page counts gives up just where they state too much. -/
theorem gives_abort_iff_of_pageCounts (chosen : q.source = .pageCounts)
    (opens : (Ask.file (.openFile q.pageCountsPath)).Gives host (· = .ok ())) {bytes : Bytes}
    (reads : (Ask.file (.readAt q.pageCountsPath 0 Querier.pageCountsBuffer)).Gives host (· = .ok bytes)) :
    q.footprint.Gives host fun out => out.1 = .error .abort ↔ PagesExcess q.pageSize bytes := by
  have counted : q.readPageCounts.Gives host (· = Querier.residentOfPageCounts q.pageSize bytes) := by
    refine .bind opens ?_
    rintro _ rfl
    refine .bind reads ?_
    rintro _ rfl
    exact .pure rfl
  rw [Querier.footprint]
  simp only [chosen]
  refine .bind counted ?_
  rintro _ rfl
  exact .pure residentOfPageCounts_eq_abort_iff

end Footprint

namespace Linux

/-- Queries about memory, disks and traffic, and readers of footprints, give up just where the files state an amount, or
amounts whose sum or whose conversion to bytes, is too large for a word. -/
theorem figures_decide (p : Probe) (pid : Pid) (answer : (c : Call) → c.Answer) {σ : Type}
    (host : (c : Call) → StateM σ c.Answer) (q : Footprint.Querier) :
    ((platform p).virtualMemory.result answer = .error .abort ↔
        ∃ text, (p.procfs.read "meminfo").result answer = .ok text ∧ MemoryExcess text) ∧
      ((platform p).swapMemory.result answer = .error .abort ↔
        ∃ text, (p.procfs.read "meminfo").result answer = .ok text ∧ (StatesExcess text ∨
          ((statedMeminfo text).get? "SwapTotal").isSome ∧ ∃ vmstat,
            (p.procfs.read "vmstat").result answer = .ok vmstat ∧
              SwapsExcess p.pageSize (Procfs.parseVmstat vmstat))) ∧
      ((platform p).diskIoCounters.result answer = .error .abort ↔
        ∃ text, (p.procfs.read "diskstats").result answer = .ok text ∧ DisksExcess text) ∧
      (((platform p).ioCounters pid).result answer = .error .abort ↔
        ∃ text, (p.processText pid "io").result answer = .ok text ∧ StatesExcess text) ∧
      (((platform p).memoryInfo pid).result answer = .error .abort ↔
        ∃ statm stat, (p.processRecord pid "statm" Procfs.Statm.parse).result answer = .ok statm ∧
          (p.processStat pid).result answer = .ok stat ∧
            ((∃ status, (p.processText pid "status").result answer = .ok status ∧ PeakExcess status) ∨
              PagesExcess p.pageSize statm stat)) ∧
      (((platform p).memoryMaps pid).result answer = .error .abort ↔
        ∃ text, (p.processText pid "smaps").result answer = .ok text ∧ MappingsExcess text) ∧
      (∀ path found, q.path? = some path → Footprint.Found.At host path found →
        q.footprint.Gives host fun out => out.1 = .error .abort ↔ found.Excess) ∧
      (q.source = .pageCounts → (Ask.file (.openFile q.pageCountsPath)).Gives host (· = .ok ()) → ∀ bytes,
        (Ask.file (.readAt q.pageCountsPath 0 Footprint.Querier.pageCountsBuffer)).Gives host (· = .ok bytes) →
          q.footprint.Gives host fun out => out.1 = .error .abort ↔ Footprint.PagesExcess q.pageSize bytes) :=
  ⟨p.virtualMemory_eq_abort_iff, p.swapMemory_eq_abort_iff, diskIoCounters_eq_abort_iff p,
    ioCounters_eq_abort_iff p pid, p.memoryInfo_eq_abort_iff pid, memoryMaps_eq_abort_iff p pid,
    fun _ _ chosen there => Footprint.gives_abort_iff chosen there,
    fun chosen opens _ reads => Footprint.gives_abort_iff_of_pageCounts chosen opens reads⟩

def textHost (texts : List (String × String)) : (c : Call) → c.Answer
  | .file (.read path) =>
    match texts.lookup path with
    | some text => .ok (Utf8.encode text.toList)
    | none => .error (.number ErrorNumber.noEntry)
  | c => ({} : Host).reply c

def sameFiles (bytes : Bytes) : (c : Call) → StateM Unit c.Answer
  | .file (.openFile _) => pure (.ok ())
  | .file (.readAt ..) => pure (.ok bytes)
  | c => pure (({} : Host).reply c)

/-- A clean and a dirty size that a word holds, but not both together. -/
def dirtyMappings : Footprint.Found :=
  .opened
    (Utf8.encode "Rss: 4 kB\nPrivate_Clean: 9007199254740992 kB\nPrivate_Dirty: 9007199254740992 kB\n".toList) none

/-- Excess in an amount, in a sum of clean and dirty pages, and in a page count. -/
theorem figures_decide_swollen :
    (platform {}).virtualMemory.result (textHost [("/proc/meminfo", "MemTotal: 18014398509481984 kB\n")]) =
        .error .abort ∧
      Footprint.Querier.path? ⟨"/proc/1", .mappings {}, 4096⟩ = some "/proc/1/smaps" ∧
      dirtyMappings.At dirtyMappings.host "/proc/1/smaps" ∧
      (Footprint.Querier.footprint ⟨"/proc/1", .mappings {}, 4096⟩).Gives dirtyMappings.host
        (·.1 = .error .abort) ∧
      (Ask.file (.openFile "/proc/1/statm")).Gives (sameFiles (Utf8.encode "9 4503599627370496 7".toList))
        (· = .ok ()) ∧
      (Footprint.Querier.footprint ⟨"/proc/1", .pageCounts, 4096⟩).Gives
        (sameFiles (Utf8.encode "9 4503599627370496 7".toList)) (·.1 = .error .abort) := by
  obtain ⟨memory, -, -, -, -, -, mappings, -⟩ :=
    figures_decide {} 1 (textHost [("/proc/meminfo", "MemTotal: 18014398509481984 kB\n")]) dirtyMappings.host
      ⟨"/proc/1", .mappings {}, 4096⟩
  obtain ⟨-, -, -, -, -, -, -, counts⟩ :=
    figures_decide {} 1 (textHost []) (sameFiles (Utf8.encode "9 4503599627370496 7".toList))
      ⟨"/proc/1", .pageCounts, 4096⟩
  have total : Procfs.amounts "MemTotal: 18014398509481984 kB\n".toList =
      [("MemTotal".toList, 18014398509481984 * 1024)] := rfl
  have stated : StatesExcess "MemTotal: 18014398509481984 kB\n".toList := by
    rw [StatesExcess, total]
    exact ⟨_, List.mem_cons_self, by decide⟩
  have there : dirtyMappings.At dirtyMappings.host "/proc/1/smaps" := Footprint.at_opened (by decide) none _
  have unshared : dirtyMappings.Excess := .inr ⟨rfl, by decide, by decide, by decide⟩
  have opens : (Ask.file (.openFile "/proc/1/statm")).Gives (sameFiles (Utf8.encode "9 4503599627370496 7".toList))
      (· = .ok ()) := .call fun _ => rfl
  have pages : Footprint.PagesExcess 4096 (Utf8.encode "9 4503599627370496 7".toList) :=
    ⟨by decide, by decide, "4503599627370496".toList, 4503599627370496, rfl, rfl, by decide⟩
  refine ⟨memory.mpr ⟨_, rfl, .inl stated⟩, by decide, there, fun state => ?_, opens, fun state => ?_⟩
  · exact (mappings "/proc/1/smaps" dirtyMappings (by decide) there state).mpr unshared
  · exact (counts rfl opens _ (.call fun _ => rfl) state).mpr pages

/-- Amounts that a word holds until they are counted in bytes or added up end the query. -/
theorem excess_unguarded :
    (platform {}).virtualMemory.result (textHost [("/proc/meminfo", "MemTotal: 18014398509481984 kB\n")]) =
        .error .abort ∧
      (platform {}).virtualMemory.result
          (textHost [("/proc/meminfo", "MemTotal: 1\nCached: 18446744073709551615\nSReclaimable: 1\n")]) =
        .error .abort := by
  exact ⟨rfl, rfl⟩

end Linux
end HostProbe
