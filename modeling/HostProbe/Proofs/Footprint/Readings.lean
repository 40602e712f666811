import HostProbe.Host
import HostProbe.Proofs.Footprint.Smaps
import HostProbe.Proofs.Footprint.Sums
import Mathlib.Algebra.BigOperators.Group.List.Basic

/-! A process's footprint and its mappings, asked of a host that serves one file of mappings. Reads of the file may be
cut in any way, and what the host does may depend on everything that it was asked before. -/
namespace HostProbe

variable {σ α β : Type} {answer : (c : Call) → StateM σ c.Answer}

/-! ### Results on a host with a memory -/

namespace Program

/-- The result satisfies a predicate, whatever the host remembers. -/
def Gives (answer : (c : Call) → StateM σ c.Answer) (p : Program α) (holds : α → Prop) : Prop :=
  ∀ state, holds ((p.runWith answer).run state).1

theorem Gives.pure {a : α} {holds : α → Prop} (h : holds a) : Gives answer (pure a) holds := fun _ => h

/-- What follows a query may rest on all that is known of its answer. -/
theorem Gives.bind {p : Program α} {f : α → Program β} {first : α → Prop} {holds : β → Prop}
    (before : Gives answer p first) (after : ∀ a, first a → Gives answer (f a) holds) :
    Gives answer (p >>= f) holds := by
  intro state
  have ran : ((p >>= f).runWith answer).run state =
      ((f ((p.runWith answer).run state).1).runWith answer).run ((p.runWith answer).run state).2 := by
    rw [runWith_bind, StateT.run_bind]
    rfl
  rw [ran]
  exact after _ (before state) _

theorem runWith_call {m : Type → Type} [Monad m] [LawfulMonad m] {answer : (c : Call) → m c.Answer} (c : Call) :
    (call c).runWith answer = answer c := by
  rw [call, runWith]
  exact bind_pure (answer c)

theorem Gives.call {c : Call} {holds : c.Answer → Prop} (h : ∀ state, holds ((answer c).run state).1) :
    Gives answer (call c) holds := by
  intro state
  rw [runWith_call]
  exact h state

end Program

namespace Query

/-- The query succeeds with a value, whatever the host remembers. -/
def Gives (answer : (c : Call) → StateM σ c.Answer) (query : Query α) (a : α) : Prop :=
  Program.Gives answer query.run (· = .ok a)

theorem Gives.lift {outcome : Outcome α} {a : α} (h : outcome = .ok a) : (lift outcome).Gives answer a := fun _ => h

theorem Gives.bind {query : Query α} {f : α → Query β} {a : α} {b : β} (before : query.Gives answer a)
    (after : (f a).Gives answer b) : (query >>= f).Gives answer b := by
  refine Program.Gives.bind (f := ExceptT.bindCont f) before ?_
  rintro _ rfl
  exact after

theorem Gives.ofProgram {p : Program α} {f : α → Query β} {first : α → Prop} {b : β}
    (before : p.Gives answer first) (after : ∀ a, first a → (f a).Gives answer b) :
    ((liftM p : Query α) >>= f).Gives answer b := by
  have lifted : (liftM p : Query α).run.Gives answer fun result => ∃ a, result = .ok a ∧ first a :=
    Program.Gives.bind before fun a holds => .pure ⟨a, rfl, holds⟩
  refine Program.Gives.bind (f := ExceptT.bindCont f) lifted ?_
  rintro _ ⟨a, rfl, holds⟩
  exact after a holds

theorem Gives.classifyFor {live : Liveness Program} {pid : Pid} {query : Query α} {a : α}
    (given : query.Gives answer a) : Query.Gives answer (live.classifyFor pid query) a := by
  refine Program.Gives.bind given ?_
  rintro _ rfl
  exact .pure rfl

end Query

/-! ### Scanners within programs -/

namespace Scanner

section runWith

variable {m : Type → Type} [Monad m] [LawfulMonad m] {answer : (c : Call) → m c.Answer}
variable (read : (offset count : Nat) → Program (Except IoError Bytes))

theorem runWith_refill (s : Scanner) :
    (s.refill read).runWith answer = s.refill fun offset count => (read offset count).runWith answer := by
  unfold refill
  split
  · rfl
  · rw [Program.runWith_bind]
    refine bind_congr fun got => ?_
    cases got <;> rfl

theorem runWith_seek (fuel : Nat) (s : Scanner) :
    (seek read fuel s).runWith answer = seek (fun offset count => (read offset count).runWith answer) fuel s := by
  induction fuel generalizing s with
  | zero => rfl
  | succ fuel ih =>
    simp only [seek]
    split
    · rfl
    split
    · split <;> rfl
    split
    · rfl
    · rw [Program.runWith_bind, runWith_refill]
      refine bind_congr fun filled => ?_
      cases filled with
      | error cause => rfl
      | ok s => exact ih s

theorem runWith_nextLine (s : Scanner) :
    (s.nextLine read).runWith answer = s.nextLine fun offset count => (read offset count).runWith answer :=
  runWith_seek read _ _

end runWith

/-- A reader of lines answers as the rest of its file says, however the reads cut it. -/
theorem gives_nextLine {fault : Option IoError} {content : Bytes} {path : String}
    (feeds : Feeds fault content fun offset count => answer (.file (.readAt path offset count))) {s : Scanner}
    (steady : s.Steady fault content) :
    (s.nextLine fun offset count => Ask.file (.readAt path offset count)).Gives answer fun out =>
      out.1 = (turnBefore fault (s.left content)).1 ∧ out.2.Steady fault content ∧
        out.2.left content = (turnBefore fault (s.left content)).2 := by
  intro state
  obtain ⟨next, after, answered, steady', left⟩ := nextLine_turnsBefore feeds steady state
  have asked (offset count : Nat) : (Ask.file (.readAt path offset count)).runWith answer =
      answer (.file (.readAt path offset count)) := Program.runWith_call _
  rw [runWith_nextLine]
  simp only [asked, answered]
  exact ⟨trivial, steady', left⟩

end Scanner

namespace Footprint

open Scanner (capacity linesOf lineOf overlong)

/-- Summing through a scanner gives the sums of what is left. -/
theorem gives_sums {fault : Option IoError} {content : Bytes} {path : String}
    (feeds : Scanner.Feeds fault content fun offset count => answer (.file (.readAt path offset count)))
    {fuel : Nat} {t : Totals} {s : Scanner} (steady : s.Steady fault content)
    (enough : (linesOf (s.left content)).length < fuel) :
    (sumLines (fun offset count => Ask.file (.readAt path offset count)) fuel t s).Gives answer
      fun out => out.1 = sums fault (s.left content) t := by
  -- A line is taken from what is left at each step, and the fuel covers the lines.
  induction fuel generalizing t s with
  | zero => exact absurd enough (Nat.not_lt_zero _)
  | succ fuel ih =>
    refine .bind (Scanner.gives_nextLine feeds steady) ?_
    rintro ⟨answered, next⟩ ⟨turned, steady', left⟩
    by_cases whole : fault = none ∨ lineOf (s.left content) ≠ s.left content
    · rw [Scanner.turnBefore_eq_turn (whole.imp_right .inl)] at turned left
      by_cases ended : s.left content = []
      · have told : fault = none := whole.resolve_right (by simp [ended, lineOf])
        rw [ended] at turned ⊢
        obtain rfl : answered = .ok none := turned
        rw [told]
        exact .pure rfl
      rw [Scanner.linesOf_eq ended] at enough
      rw [sums_eq ended whole]
      by_cases short : (lineOf (s.left content)).length < capacity
      · rw [Scanner.turn_of_short ended short] at turned left
        obtain rfl : answered = .ok (some (lineOf (s.left content))) := turned
        replace left : next.left content = (s.left content).drop ((lineOf (s.left content)).length + 1) := left
        rw [← left] at enough ⊢
        rw [takeLine_of_short short]
        cases observed : t.observe (lineOf (s.left content)) with
        | error cause =>
          simp only [observed]
          exact .pure rfl
        | ok middle =>
          simp only [observed]
          exact ih steady' (Nat.lt_of_succ_lt_succ enough)
      · rw [Scanner.turn_of_long (Nat.not_lt.mp short)] at turned
        obtain rfl : answered = .error overlong := turned
        rw [takeLine_of_long (Nat.not_lt.mp short)]
        exact .pure rfl
    · obtain ⟨faulty, single⟩ := not_or.mp whole
      obtain ⟨cause, rfl⟩ := Option.ne_none_iff_exists'.mp faulty
      rw [Scanner.turnBefore_of_fault (not_not.mp single)] at turned
      rw [sums_of_fault (not_not.mp single)]
      obtain rfl : answered = .error _ := turned
      exact .pure rfl

/-- Summing short lines through a scanner sums the lines that are left. -/
theorem gives_sumLines {content : Bytes} {path : String}
    (delivers : Scanner.Delivers content fun offset count => answer (.file (.readAt path offset count)))
    {fuel : Nat} {t last : Totals} {s : Scanner} (sound : s.Sound content)
    (short : ∀ line ∈ linesOf (s.left content), line.length < Scanner.capacity)
    (enough : (linesOf (s.left content)).length < fuel)
    (summed : (linesOf (s.left content)).foldlM Totals.observe t = .ok last) :
    (sumLines (fun offset count => Ask.file (.readAt path offset count)) fuel t s).Gives answer
      fun out => out.1 = .ok last := by
  rw [← foldlM_takeLine short summed]
  exact gives_sums delivers.feeds sound.steady enough

/-! ### The two readings -/

structure Serves (answer : (c : Call) → StateM σ c.Answer) (path : String) (content : Bytes) : Prop where
  found : (Ask.file (.info path)).Gives answer fun told => ∃ info, told = .ok info
  opens : (Ask.file (.openFile path)).Gives answer (· = .ok ())
  whole : (Ask.file (.read path)).Gives answer (· = .ok content)
  delivers : Scanner.Delivers content fun offset count => answer (.file (.readAt path offset count))

def Lacks (answer : (c : Call) → StateM σ c.Answer) (path : String) : Prop :=
  (Ask.file (.info path)).Gives answer fun told => ∃ cause, told = .error cause

def ofMaps (maps : List MemoryMap) : Footprint where
  rss := (maps.map MemoryMap.rss).sum
  pss := some (maps.map MemoryMap.pss).sum
  uss := some (maps.map fun m => m.privateClean + m.privateDirty).sum
  swap := some (maps.map MemoryMap.swap).sum

/-- Sums and records of one document come to the same footprint. -/
theorem totals_footprint {d : Smaps.Document} (sound : d.Sound) {t : Totals}
    (sums : ∀ size : Smaps.Size, size.inTotals t = d.bytes size.key) (seen : t.sawRss = true) {maps : List MemoryMap}
    (records : ∀ size : Smaps.Size, (maps.map size.inRecord).sum = d.bytes size.key) :
    t.footprint = .ok (ofMaps maps) := by
  have same (size : Smaps.Size) : size.inTotals t = (maps.map size.inRecord).sum := (sums size).trans (records size).symm
  have rss : t.rss = (maps.map MemoryMap.rss).sum := same .rss
  have pss : t.pss = (maps.map MemoryMap.pss).sum := same .pss
  have swap : t.swap = (maps.map MemoryMap.swap).sum := same .swap
  have unshared : Word.add t.privateClean t.privateDirty = .ok (t.privateClean + t.privateDirty) := by
    have clean : t.privateClean = d.bytes "Private_Clean" := sums .privateClean
    have dirty : t.privateDirty = d.bytes "Private_Dirty" := sums .privateDirty
    refine if_pos ?_
    rw [clean, dirty]
    exact sound.unshared
  have uss : t.privateClean + t.privateDirty = (maps.map fun m => m.privateClean + m.privateDirty).sum := by
    have clean : t.privateClean = (maps.map MemoryMap.privateClean).sum := same .privateClean
    have dirty : t.privateDirty = (maps.map MemoryMap.privateDirty).sum := same .privateDirty
    rw [clean, dirty, List.sum_map_add]
  simp only [Totals.footprint, seen, unshared, uss, rss, pss, swap]
  rfl

/-- A reader that has chosen the mappings sums them, each time it is asked. -/
theorem gives_footprint {d : Smaps.Document} (sound : d.Sound) {maps : List MemoryMap}
    (records : ∀ size : Smaps.Size, (maps.map size.inRecord).sum = d.bytes size.key) {q : Querier} {scanner : Scanner}
    (chosen : q.source = .mappings scanner) (serves : Serves answer q.mappingsPath (Utf8.encode d.text)) :
    q.footprint.Gives answer fun out => out.1 = .ok (ofMaps maps) := by
  obtain ⟨t, summed, sums, seen⟩ := Smaps.Document.observe_sums sound
  have lines := Smaps.Document.linesOf_text sound
  have short : ∀ line ∈ Scanner.linesOf (Utf8.encode d.text), line.length < Scanner.capacity := by
    rw [lines]
    exact List.forall_mem_map.mpr sound.short
  have few : (Scanner.linesOf (Utf8.encode d.text)).length < lineLimit := by
    rw [lines, List.length_map]
    exact Smaps.Document.lines_lt sound
  have scanned : (Querier.scan q.mappingsPath scanner).Gives answer fun out => out.1 = .ok (ofMaps maps) := by
    refine .bind serves.opens ?_
    rintro _ rfl
    refine .bind (gives_sumLines serves.delivers (Scanner.sound_new _) short few summed) ?_
    rintro ⟨outcome, last⟩ rfl
    exact .pure (totals_footprint sound sums seen records)
  rw [Querier.footprint]
  simp only [chosen]
  exact .bind scanned fun out given => .pure given

/-- Without sums that the system makes, a new reader chooses the mappings. -/
theorem gives_new {fs : Procfs} {pid : Pid} {content : Bytes} (lacks : Lacks answer (fs.pidPath pid "smaps_rollup"))
    (serves : Serves answer (fs.pidPath pid "smaps") content) :
    (Querier.new fs (.pid pid)).Gives answer fun q =>
      q.mappingsPath = fs.pidPath pid "smaps" ∧ ∃ scanner, q.source = .mappings scanner := by
  have without : (Ask.fileExists (fs.pidPath pid "smaps_rollup")).Gives answer (· = false) := by
    refine .bind lacks ?_
    rintro _ ⟨cause, rfl⟩
    exact .pure rfl
  have there : (Ask.fileExists (fs.pidPath pid "smaps")).Gives answer (· = true) := by
    refine .bind serves.found ?_
    rintro _ ⟨info, rfl⟩
    exact .pure rfl
  refine .bind without ?_
  rintro _ rfl
  refine .bind there ?_
  rintro _ rfl
  simp only [Bool.false_eq_true, if_false, if_true, pure_bind]
  have asked : (Ask.posix (.setting .pageSize)).Gives answer fun _ => True := fun _ => trivial
  exact .bind asked fun pageSize _ => .pure ⟨rfl, _, rfl⟩

end Footprint

namespace Linux

/-- Mappings are the records of the document at their path. -/
theorem gives_memoryMaps {p : Probe} {pid : Pid} (natural : 0 ≤ pid) {t : Text}
    (serves : Footprint.Serves answer (p.procfs.pidPath pid "smaps") (Utf8.encode t)) {maps : List MemoryMap}
    (parsed : Procfs.parseSmaps t = .ok maps) : ((platform p).memoryMaps pid).Gives answer maps := by
  have known : checkPid pid = .ok () := if_neg (Int.not_lt.mpr natural)
  have text : (Ask.readText (p.procfs.pidPath pid "smaps")).Gives answer (· = .ok t) := by
    refine .bind serves.whole ?_
    rintro _ rfl
    simp only [Utf8.decode?_encode]
    exact .pure rfl
  have read : (p.procfs.readPid pid "smaps").Gives answer t := by
    refine .ofProgram text ?_
    rintro _ rfl
    exact .lift rfl
  have checked : (p.processText pid "smaps").Gives answer t := .bind (.lift known) (.classifyFor read)
  exact .bind checked (.classifyFor (.lift parsed))

/-- Where there are no sums of the kernel, the footprint is that of the mappings. -/
theorem gives_memoryFullInfo {p : Probe} {pid : Pid} (natural : 0 ≤ pid) {d : Smaps.Document} (sound : d.Sound)
    (lacks : Footprint.Lacks answer (p.procfs.pidPath pid "smaps_rollup"))
    (serves : Footprint.Serves answer (p.procfs.pidPath pid "smaps") (Utf8.encode d.text)) {maps : List MemoryMap}
    (records : ∀ size : Smaps.Size, (maps.map size.inRecord).sum = d.bytes size.key) :
    ((platform p).memoryFullInfo pid).Gives answer
      { rss := (maps.map MemoryMap.rss).sum
        pss := some (maps.map MemoryMap.pss).sum
        uss := (maps.map fun m => m.privateClean + m.privateDirty).sum
        swap := some (maps.map MemoryMap.swap).sum } := by
  have known : checkPid pid = .ok () := if_neg (Int.not_lt.mpr natural)
  refine .bind (.lift known) (.ofProgram (Footprint.gives_new lacks serves) ?_)
  rintro q ⟨path, scanner, chosen⟩
  refine .ofProgram (Footprint.gives_footprint sound records chosen (path ▸ serves)) ?_
  rintro ⟨_, next⟩ rfl
  exact .lift rfl

end Linux

namespace Footprint

/-- A reader of footprints and the list of mappings agree about every file of mappings that the system writes: the
footprint is the sums over the records, and neither query fails. -/
theorem mappings_agree {d : Smaps.Document} (sound : d.Sound) (p : Linux.Probe) {pid : Pid} (natural : 0 ≤ pid)
    (lacks : Lacks answer (p.procfs.pidPath pid "smaps_rollup"))
    (serves : Serves answer (p.procfs.pidPath pid "smaps") (Utf8.encode d.text)) :
    ∃ maps, Procfs.parseSmaps d.text = .ok maps ∧
      (Querier.new p.procfs (.pid pid) >>= Querier.footprint).Gives answer (·.1 = .ok (ofMaps maps)) ∧
      ((Linux.platform p).memoryMaps pid).Gives answer maps ∧
      ((Linux.platform p).memoryFullInfo pid).Gives answer
        { rss := (maps.map MemoryMap.rss).sum
          pss := some (maps.map MemoryMap.pss).sum
          uss := (maps.map fun m => m.privateClean + m.privateDirty).sum
          swap := some (maps.map MemoryMap.swap).sum } := by
  obtain ⟨maps, parsed, records⟩ := Smaps.Document.parseSmaps_sums sound
  refine ⟨maps, parsed, ?_, Linux.gives_memoryMaps natural serves parsed,
    Linux.gives_memoryFullInfo natural sound lacks serves records⟩
  refine .bind (gives_new lacks serves) ?_
  rintro q ⟨path, scanner, chosen⟩
  exact gives_footprint sound records chosen (path ▸ serves)

def oneFile (path : String) (content : Bytes) : (c : Call) → StateM Unit c.Answer
  | .file (.info asked) =>
    pure (if asked = path then .ok { kind := .regular } else .error (.number ErrorNumber.noEntry))
  | .file (.openFile asked) => pure (if asked = path then .ok () else .error (.number ErrorNumber.noEntry))
  | .file (.read asked) => pure (if asked = path then .ok content else .error (.number ErrorNumber.noEntry))
  | .file (.readAt _ offset count) => Scanner.bytewise content offset count
  | c => pure (({} : Host).reply c)

theorem serves_oneFile (path : String) (content : Bytes) : Serves (oneFile path content) path content where
  found := .call fun _ => ⟨_, if_pos rfl⟩
  opens := .call fun _ => if_pos rfl
  whole := .call fun _ => if_pos rfl
  delivers := Scanner.delivers_bytewise content

theorem lacks_oneFile {path other : String} (content : Bytes) (different : other ≠ path) :
    Lacks (oneFile path content) other :=
  .call fun _ => ⟨_, if_neg different⟩

def oddPath : Smaps.Document where
  mappings := [{
    header := {
      start := "7f00".toList, stop := "7f08".toList, permissions := "rw-p".toList, offset := "00000000".toList
      major := "08".toList, minor := "01".toList, inode := "7".toList, path := some "  /tmp/Rss: 9 kB".toList }
    fields := [.amount "Rss".toList 3 4, .amount "Pss".toList 3 2, .amount "Private_Dirty".toList 0 1,
      .words "VmFlags".toList "rd wr".toList] }]
  closed := false

theorem sound_oddPath : oddPath.Sound where
  mappings := by
    have small : ∀ n ≤ 4, n * 1024 < Word.span := by decide
    have unnumbered : (Text.words "rd wr".toList).head?.bind Integer.word? = none := by decide
    simp only [oddPath, List.forall_mem_singleton]
    refine ⟨⟨by decide, by decide, by decide⟩, ?_, by decide⟩
    simp only [List.forall_mem_cons]
    refine ⟨⟨by decide, small 4 (by decide)⟩, ⟨by decide, small 2 (by decide)⟩, ⟨by decide, small 1 (by decide)⟩,
      ⟨by decide, by decide, by decide, fun n number => ?_⟩, nofun⟩
    cases unnumbered.symm.trans number
  resident := ⟨_, List.mem_singleton_self _, _, List.mem_cons_self, rfl⟩
  short := by decide
  rss := by decide
  pss := by decide
  unshared := by decide
  swap := by decide
  held := by decide

/-- A document with one odd path, read as sums and as records. -/
theorem mappings_agree_oddPath : oddPath.Sound ∧ (0 : Pid) ≤ 42 ∧
    Lacks (oneFile "/proc/42/smaps" (Utf8.encode oddPath.text)) "/proc/42/smaps_rollup" ∧
    Serves (oneFile "/proc/42/smaps" (Utf8.encode oddPath.text)) "/proc/42/smaps" (Utf8.encode oddPath.text) ∧
    ∃ maps, Procfs.parseSmaps oddPath.text = .ok maps ∧
      (Querier.new ⟨"/proc"⟩ (.pid 42) >>= Querier.footprint).Gives
        (oneFile "/proc/42/smaps" (Utf8.encode oddPath.text)) (·.1 = .ok (ofMaps maps)) := by
  have natural : (0 : Pid) ≤ 42 := by decide
  have lacks : Lacks (oneFile "/proc/42/smaps" (Utf8.encode oddPath.text)) "/proc/42/smaps_rollup" :=
    lacks_oneFile _ (by decide)
  have serves := serves_oneFile "/proc/42/smaps" (Utf8.encode oddPath.text)
  obtain ⟨maps, parsed, footprint, -⟩ := mappings_agree sound_oddPath {} natural lacks serves
  exact ⟨sound_oddPath, natural, lacks, serves, maps, parsed, footprint⟩

end Footprint
end HostProbe
