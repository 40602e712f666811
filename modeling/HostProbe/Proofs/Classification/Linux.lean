import HostProbe.Cygwin
import HostProbe.Proofs.Classification.Processes
import HostProbe.Proofs.Connections.Agreement

/-! Errors about processes on Linux and Cygwin, whose process file systems are texts and links. -/
namespace HostProbe

/-! ### Texts -/

section texts

variable {kind : Error → Prop}

namespace Procfs

namespace ProcessStat

theorem reports_column {α : Type} (read : Text → Option α) (fields : List Text) (i : Nat) :
    (column read fields i).Reports Error.Raw := by
  unfold column
  extract_lets field
  split
  · exact .ok _
  · exact .report (.parse _ _)

theorem reports_ofFields (name : Text) (fields : List Text) : (ofFields name fields).Reports Error.Raw := by
  have column {α : Type} (read : Text → Option α) (i : Nat) := reports_column read fields i
  unfold ofFields
  split
  · exact .report (.parse _ _)
  · repeat refine .bind (column _ _) fun _ _ => ?_
    exact .ok _

theorem reports_parse (text : Text) : (parse text).Reports Error.Raw := by
  unfold parse
  split
  · exact .report (.parse _ _)
  · split
    · exact reports_ofFields _ _
    · exact .report (.parse _ _)

end ProcessStat

theorem reports_statusIds (status : List (Text × Text)) (key : String) : (statusIds status key).Reports Error.Raw := by
  unfold statusIds
  split
  · exact .ok _
  · exact .report (.parse _ _)

theorem reports_statusAmount (status : List (Text × Text)) (key : String) : (statusAmount status key).Reports kind := by
  unfold statusAmount
  split
  · exact .ok _
  · exact .bind (Word.reports_mul _ _) fun _ _ => .ok _

theorem Statm.reports_parse (text : Text) : (parse text).Reports Error.Raw := by
  unfold parse
  extract_lets fail
  refine .bind (.mapM (fun v => ?_) _) fun values _ => ?_
  · split
    · exact .ok _
    · exact .report (.parse _ _)
  · split
    · exact .ok _
    · exact .report (.parse _ _)

theorem reports_keyedAmount (line : Text) : (keyedAmount line).Reports kind := by
  unfold keyedAmount
  split
  · exact .ok _
  · split
    · exact .ok _
    · split
      · exact .ok _
      · exact .bind (Word.reports_mul _ _) fun _ _ => .ok _

theorem reports_parseIo (text : Text) : (parseIo text).Reports Error.Raw := by
  unfold parseIo
  refine .bind (.bind (.mapM reports_keyedAmount _) fun _ _ => .ok _) fun fields _ => ?_
  extract_lets get
  have given (key : String) : (get key).Reports Error.Raw := .ofOption (.parse _ _) _
  repeat refine .bind (given _) fun _ _ => ?_
  exact .ok _

theorem reports_parseSmaps (text : Text) : (parseSmaps text).Reports Error.Raw := by
  refine .bind (.foldlM (fun maps line => ?_) _ _) fun _ _ => .ok _
  unfold readSmapsLine
  split
  · exact .ok _
  · split
    · exact .ok _
    · split
      · exact .report (.parse _ _)
      · refine .bind (reports_keyedAmount _) fun amount _ => ?_
        split <;> exact .ok _

end Procfs

end texts

/-! ### Queries -/

namespace Linux

section queries

variable {answer : (c : Call) → c.Answer} {p : Probe} {pid : Pid}

theorem natural (p : Probe) (answer : (c : Call) → c.Answer) : p.live.Natural answer := by
  intro pid negative
  change (p.pidExists pid).eval answer = false
  unfold Probe.pidExists
  cases p.evidence with
  | files =>
    simp only [Probe.pidHasFiles, negative, if_true]
    rfl
  | signals =>
    simp only [Posix.pidExists, negative, if_true]
    rfl

theorem reports_processText (name : String) : (p.processText pid name).Reports answer (p.live.Explains answer pid) :=
  .bind (.checkPid (natural p answer)) fun _ _ => .classifyFor (natural p answer) (.onPath _ _ _)

theorem reports_processRecord {α : Type} (name : String) {parse : Text → Outcome α}
    (raw : ∀ text, (parse text).Reports Error.Raw) :
    (p.processRecord pid name parse).Reports answer (p.live.Explains answer pid) :=
  .bind (reports_processText name) fun text _ => .classifyFor (natural p answer) (.lift (raw text))

theorem reports_processStat : (p.processStat pid).Reports answer (p.live.Explains answer pid) :=
  reports_processRecord "stat" Procfs.ProcessStat.reports_parse

theorem reports_blockBytes (name : String) : (p.blockBytes pid name).Reports answer (p.live.Explains answer pid) :=
  .bind (.checkPid (natural p answer)) fun _ _ => .classifyFor (natural p answer) (.onPath _ _ _)

theorem reports_ids (key : String) : (p.ids pid key).Reports answer (p.live.Explains answer pid) :=
  reports_processRecord "status" fun _ => Procfs.reports_statusIds _ key

/-- A missing link of a process that runs is no error, every other failure is classified. -/
theorem reports_exe : (p.exe pid).Reports answer (p.live.Explains answer pid) := by
  refine .bind (.checkPid (natural p answer)) fun _ _ => .bind (.attempt _) fun attempted ended => ?_
  cases attempted with
  | ok target => exact .pure _
  | error error =>
    have raw : error.Raw := Query.Reports.onPath _ _ _ error (Query.result_of_attempt_error ended)
    have classified : Query.Reports answer (p.live.Explains answer pid)
        (p.live.classifyFor pid (Query.report error : Query String)) := .classifyFor (natural p answer) (.report raw)
    dsimp -zeta only
    extract_lets missing
    -- Only the missing link of a process that is there and no zombie is passed over: a kernel thread has none.
    split
    · refine .bind (.ofProgram _) fun present _ => ?_
      split
      · refine .bind (.ofProgram _) fun zombie _ => ?_
        split
        · exact .pure _
        · exact classified
      · exact classified
    · exact classified

/-- An error about the threads of a process agrees with what is known of it. -/
theorem reports_threads : (p.threads pid).Reports answer (p.live.Explains answer pid) := by
  refine .bind (Procfs.reports_processEntries (natural p answer) _) fun names _ => .bind (.mapM (fun name => ?_) _)
    fun _ _ => .pure _
  unfold Probe.threadOfEntry
  split
  · exact .pure _
  · refine .bind (.ofProgram _) fun contents _ => ?_
    split
    · exact .pure _
    · exact .bind (.classifyFor (natural p answer) (.lift (Procfs.ProcessStat.reports_parse _))) fun _ _ => .pure _

theorem reports_openFiles : (p.openFiles pid).Reports answer (p.live.Explains answer pid) :=
  .bind (Procfs.reports_processEntries (natural p answer) _) fun _ _ => .bind (.mapM (fun _ => .ofProgram _) _)
    fun _ _ => .pure _

theorem reports_memoryOfPages (statm : Procfs.Statm) (stat : Procfs.ProcessStat) (peak : Option Nat)
    {kind : Error → Prop} : (p.memoryOfPages statm stat peak).Reports kind := by
  unfold Probe.memoryOfPages
  extract_lets pages
  have counted (n : Nat) : (pages n).Reports kind := Word.reports_mul n _
  repeat refine .bind (counted _) fun _ _ => ?_
  exact .bind (Word.reports_add _ _) fun _ _ => .ok _

theorem reports_memoryInfo : (p.memoryInfo pid).Reports answer (p.live.Explains answer pid) := by
  refine .bind (reports_processRecord "statm" Procfs.Statm.reports_parse) fun statm _ =>
    .bind reports_processStat fun stat _ => .bind (.answer? _) fun status _ => ?_
  have whole (peak : Option Nat) : (Query.lift (p.memoryOfPages statm stat peak)).Reports answer
      (p.live.Explains answer pid) := .lift (reports_memoryOfPages statm stat peak)
  cases status with
  | none => exact .bind (.pure _) fun peak _ => whole peak
  | some status => exact .bind (.lift (Procfs.reports_statusAmount _ _)) fun peak _ => whole peak

/-- The full record fails with what is known of the process, or is not offered. -/
theorem reports_memoryFullInfo : (p.memoryFullInfo pid).Reports answer fun error =>
    p.live.Explains answer pid error ∨ error.IsUnsupported := by
  refine .bind ((Query.Reports.checkPid (natural p answer)).imp fun _ => .inl) fun _ _ => .bind (.ofProgram _)
    fun querier _ => .bind (.ofProgram _) fun found _ => ?_
  split
  · refine .lift ?_
    unfold Footprint.memory
    split
    · exact .report (.inr ⟨_, rfl⟩)
    · exact .ok _
  · exact (Query.Reports.fail (natural p answer) _ _).imp fun _ => .inl
  · exact .throw nofun

theorem reports_holders : (p.holders (some pid)).Reports answer (p.live.Explains answer pid) := by
  refine .classifyFor (natural p answer) (.bind (.onPath _ _ _) fun _ _ => ?_)
  exact .bind (.mapM (fun _ => .ofProgram _) _) fun _ _ => .pure _

end queries

/-! ### Platforms -/

/-- Errors of the files of the whole system, which two of the questions need beside those of the process. -/
def Elsewhere (answer : (c : Call) → c.Answer) (p : Probe) (a : Subject) : Question → Error → Prop
  | .createTime, error => (∃ stat, (p.processStat a.pid).result answer = .ok stat) ∧
      p.bootTime.result answer = .error (.report error)
  | .connections, error => (∃ found, (p.holders (some a.pid)).result answer = .ok found) ∧
      (tables p a.filter).result answer = .error (.report error)
  | _, _ => False

/-- Errors that a question may be answered with: explained by what is known of the process, about something that is not
offered, or of the files of the whole system. -/
def Tells (answer : (c : Call) → c.Answer) (p : Probe) (a : Subject) (q : Question) (error : Error) : Prop :=
  p.live.Explains answer a.pid error ∨ error.IsUnsupported ∨ Elsewhere answer p a q error

section platforms

variable {answer : (c : Call) → c.Answer} {p : Probe} {a : Subject}

private theorem tells {α : Type} {q : Question} {query : Query α}
    (explained : query.Reports answer (p.live.Explains answer a.pid)) : query.Reports answer (Tells answer p a q) :=
  explained.imp fun _ => .inl

private theorem tells_unsupported {α : Type} {q : Question} {query : Query α}
    (unsupported : query.Reports answer Error.IsUnsupported) : query.Reports answer (Tells answer p a q) :=
  unsupported.imp fun _ away => .inr (.inl away)

private theorem reports_createTime : (p.createTime a.pid).Reports answer (Tells answer p a .createTime) :=
  .bind (tells reports_processStat) fun stat read => .bind (fun _ failed => .inr (.inr ⟨⟨stat, read⟩, failed⟩))
    fun _ _ => .pure _

private theorem reports_contextSwitches :
    (p.contextSwitches a.pid).Reports answer (Tells answer p a .contextSwitches) := by
  refine .bind (tells (reports_processText _)) fun text _ => .lift ?_
  unfold Procfs.statusContextSwitches
  extract_lets get
  split
  · exact .ok _
  · exact .report (.inr (.inl ⟨_, rfl⟩))

private theorem reports_connections :
    (p.connections a.filter (some a.pid)).Reports answer (Tells answer p a .connections) := by
  have split : Query.Reports answer (Tells answer p a .connections) (do
      let holders ← p.holders (some a.pid)
      let sockets ← tables p a.filter
      return sockets.flatMap fun s => connectionsOf holders (some a.pid).isNone s.1 s.2) :=
    .bind (tells reports_holders) fun found read => .bind (fun _ failed => .inr (.inr ⟨⟨found, read⟩, failed⟩))
      fun _ _ => .pure _
  rw [Query.Reports, connections_eq]
  exact split

/-- Every question that the files of a process answer fails as it may. -/
theorem fromFiles_tells : (platform p).FromFiles answer a fun q _ outcome => outcome.Reports (Tells answer p a q) where
  name := tells (.bind reports_processStat fun _ _ => .pure _)
  exe := tells reports_exe
  commandLine := tells (.bind (reports_blockBytes _) fun _ _ => .pure _)
  environment := tells (.bind (reports_blockBytes _) fun _ _ => .pure _)
  workingDirectory := tells (Procfs.reports_processLink (natural p answer) _)
  parent := tells (.bind reports_processStat fun _ _ => .pure _)
  status := tells (.bind reports_processStat fun _ _ => .pure _)
  userIds := tells (reports_ids _)
  groupIds := tells (reports_ids _)
  terminal := tells (.bind reports_processStat fun _ _ => .ofProgram _)
  createTime := reports_createTime
  processCpuTimes := tells (.bind reports_processStat fun _ _ => .pure _)
  memoryInfo := tells reports_memoryInfo
  memoryFullInfo := reports_memoryFullInfo.imp fun _ told => told.imp_right .inl
  memoryMaps := tells (reports_processRecord _ Procfs.reports_parseSmaps)
  threadCount := tells (.bind reports_processStat fun _ _ => .pure _)
  threads := tells reports_threads
  contextSwitches := reports_contextSwitches
  ioCounters := tells (reports_processRecord _ Procfs.reports_parseIo)
  openFiles := tells reports_openFiles
  descriptorCount := tells (.bind (Procfs.reports_processEntries (natural p answer) _) fun _ _ => .pure _)
  connections := Query.Reports.bind (tells (.checkPid (natural p answer))) fun _ _ => reports_connections
  isZombie := tells (.bind reports_processStat fun _ _ => .pure _)

/-! ### Directories that are gone -/

/-- The directory of a process is gone, and with it everything in it. -/
structure Absent (answer : (c : Call) → c.Answer) (fs : Procfs) (pid : Pid) : Prop where
  directory : ∃ cause, answer (.file (.info (fs.pidDir pid))) = .error cause
  read : ∀ name, ∃ cause, answer (.file (.read (fs.pidPath pid name))) = .error cause
  list : ∀ name, ∃ cause, answer (.file (.list (fs.pidPath pid name))) = .error cause
  link : ∀ name, ∃ cause, answer (.file (.readLink (fs.pidPath pid name))) = .error cause
  opened : ∀ name, ∃ cause, answer (.file (.openFile (fs.pidPath pid name))) = .error cause

/-- A process that is known to be gone, as is its directory. -/
structure Vanished (answer : (c : Call) → c.Answer) (p : Probe) (pid : Pid) : Prop where
  nonnegative : 0 ≤ pid
  gone : (p.live.pidExists pid).eval answer = false
  absent : Absent answer p.procfs pid

section vanished

variable {pid : Pid} {α : Type}

/-- The files themselves show that a process is gone. -/
theorem Vanished.of_absent (evidence : p.evidence = .files) (nonnegative : 0 ≤ pid)
    (absent : Absent answer p.procfs pid) : Vanished answer p pid := by
  refine ⟨nonnegative, ?_, absent⟩
  obtain ⟨cause, unread⟩ := absent.read "status"
  obtain ⟨other, missing⟩ := absent.directory
  change (p.pidExists pid).eval answer = false
  -- The status cannot be read, so the directory itself is looked for, and that is gone too.
  rw [Probe.pidExists, evidence]
  dsimp only
  rw [Probe.pidHasFiles, if_neg (Int.not_lt.mpr nonnegative), Program.eval_bind,
    Ask.eval_readText_of_error answer unread]
  dsimp only
  rw [Ask.fileExists, Program.eval_bind, Ask.eval_file, missing]
  rfl

private theorem classified_misses (vanished : Vanished answer p pid) {query : Query α} {error : Error} (raw : error.Raw)
    (failed : query.result answer = .error (.report error)) : Query.Misses answer pid (p.live.classifyFor pid query) :=
  .classifyFor (natural p answer) vanished.gone raw failed

private theorem result_onPath_of_error (call path : String) {question : Program (Except IoError α)} {cause : IoError}
    (failed : question.eval answer = .error cause) :
    (Query.onPath call path question).result answer = .error (.report (pathError call path cause)) := by
  rw [Query.result_onPath, failed]

private theorem processText_misses (vanished : Vanished answer p pid) (name : String) :
    (p.processText pid name).Misses answer pid := by
  obtain ⟨cause, unread⟩ := vanished.absent.read name
  have failed := result_onPath_of_error "read" (p.procfs.pidPath pid name) (Ask.eval_readText_of_error answer unread)
  exact .checked vanished.nonnegative (classified_misses vanished (.os _ cause) failed)

private theorem processRecord_misses (vanished : Vanished answer p pid) (name : String) (parse : Text → Outcome α) :
    (p.processRecord pid name parse).Misses answer pid := (processText_misses vanished name).bind _

private theorem blockBytes_misses (vanished : Vanished answer p pid) (name : String) :
    (p.blockBytes pid name).Misses answer pid := by
  obtain ⟨cause, unread⟩ := vanished.absent.read name
  have failed := result_onPath_of_error "read" (p.procfs.pidPath pid name) ((Ask.eval_file answer _).trans unread)
  exact .checked vanished.nonnegative (classified_misses vanished (.os _ cause) failed)

private theorem processEntries_misses (vanished : Vanished answer p pid) (name : String) :
    (p.procfs.processEntries p.live pid name).Misses answer pid := by
  obtain ⟨cause, unlisted⟩ := vanished.absent.list name
  have asked : (liftM (Ask.file (.list (p.procfs.pidPath pid name))) : Query _).result answer = .ok (.error cause) := by
    rw [Query.result_ofProgram, Ask.eval_file, unlisted]
  exact .checked vanished.nonnegative (.after asked (.fail (natural p answer) vanished.gone _ cause))

private theorem readPidLink_fails (vanished : Vanished answer p pid) (name : String) :
    ∃ error : Error, error.Raw ∧ (p.procfs.readPidLink pid name).result answer = .error (.report error) := by
  obtain ⟨cause, unlinked⟩ := vanished.absent.link name
  exact ⟨_, .os _ cause, result_onPath_of_error _ _ ((Ask.eval_file answer _).trans unlinked)⟩

private theorem processLink_misses (vanished : Vanished answer p pid) (name : String) :
    (p.procfs.processLink p.live pid name).Misses answer pid := by
  obtain ⟨error, raw, failed⟩ := readPidLink_fails vanished name
  exact .checked vanished.nonnegative (.bind (classified_misses vanished raw failed) _)

/-- The missing executable of a process that is gone is an error, unlike that of a kernel thread. -/
private theorem exe_misses (vanished : Vanished answer p pid) : (p.exe pid).Misses answer pid := by
  obtain ⟨error, raw, failed⟩ := readPidLink_fails vanished "exe"
  have attempted : (p.procfs.readPidLink pid "exe").attempt.result answer = .ok (.error error) := by
    rw [Query.result_attempt, failed]
  have classified : Query.Misses answer pid (p.live.classifyFor pid (Query.report error : Query String)) :=
    classified_misses vanished raw rfl
  refine .checked vanished.nonnegative (.after attempted ?_)
  dsimp -zeta only
  extract_lets missing
  split
  · have present : (liftM (p.pidExists pid) : Query Bool).result answer = .ok false := by
      rw [Query.result_ofProgram]
      exact congrArg Except.ok vanished.gone
    exact .after present classified
  · exact classified

private theorem base_of_querier (fs : Procfs) :
    ((Footprint.Querier.new fs (.pid pid)).eval answer).base = fs.pidDir pid := by
  rw [Footprint.Querier.new]
  dsimp only
  rw [Program.eval_bind]
  split
  · rfl
  · rw [Program.eval_bind]
    split <;> rfl

/-- Whichever file a footprint is read from, it is gone. -/
private theorem footprint_fails {fs : Procfs} (absent : Absent answer fs pid) {querier : Footprint.Querier}
    (based : querier.base = fs.pidDir pid) : ∃ cause, (querier.footprint.eval answer).1 = .error (.report cause) := by
  have unopened (name : String) :
      ∃ cause, (Ask.file (.openFile (Path.join querier.base name))).eval answer = .error cause := by
    rw [based]
    exact absent.opened name
  rw [Footprint.Querier.footprint]
  -- The source decides which file is opened; each of them lies in the directory that is gone.
  cases querier.source with
  | rollup scanner =>
    obtain ⟨cause, failed⟩ := unopened "smaps_rollup"
    refine ⟨cause, ?_⟩
    simp only [Program.eval_bind, Footprint.Querier.scan, Footprint.Querier.rollupPath, failed]
    rfl
  | mappings scanner =>
    obtain ⟨cause, failed⟩ := unopened "smaps"
    refine ⟨cause, ?_⟩
    simp only [Program.eval_bind, Footprint.Querier.scan, Footprint.Querier.mappingsPath, failed]
    rfl
  | pageCounts =>
    obtain ⟨cause, failed⟩ := unopened "statm"
    refine ⟨cause, ?_⟩
    simp only [Program.eval_bind, Footprint.Querier.readPageCounts, Footprint.Querier.pageCountsPath, failed]
    rfl

private theorem memoryFullInfo_misses (vanished : Vanished answer p pid) :
    (p.memoryFullInfo pid).Misses answer pid := by
  have based : ((Footprint.Querier.new p.procfs (.pid pid)).eval answer).base = p.procfs.pidDir pid := base_of_querier _
  obtain ⟨cause, failed⟩ := footprint_fails vanished.absent based
  refine .checked vanished.nonnegative (.after (Query.result_ofProgram answer _) ?_)
  refine .after (Query.result_ofProgram answer _) ?_
  rw [failed]
  exact .fail (natural p answer) vanished.gone _ cause

private theorem holders_misses (vanished : Vanished answer p pid) : (p.holders (some pid)).Misses answer pid := by
  obtain ⟨cause, unlisted⟩ := vanished.absent.list "fd"
  have failed : (p.socketsOf pid).result answer =
      .error (.report (pathError "opendir" (p.procfs.pidPath pid "fd") cause)) := by
    rw [Probe.socketsOf, Procfs.list, Query.result_bind,
      result_onPath_of_error _ _ ((Ask.eval_file answer _).trans unlisted)]
    rfl
  exact classified_misses vanished (.os _ cause) failed

private theorem connections_misses (vanished : Vanished answer p pid) (filter : ConnectionFilter) :
    (p.connections filter (some pid)).Misses answer pid := by
  rw [Query.Misses, connections_eq]
  exact (holders_misses vanished).bind _

/-- Every question fails alike once the process is gone. -/
theorem fromFiles_misses (vanished : Vanished answer p a.pid) :
    (platform p).FromFiles answer a fun _ _ outcome => outcome = .error (.report (.notFound a.pid)) := by
  have stat : (p.processStat a.pid).Misses answer a.pid := processRecord_misses vanished _ _
  exact {
    name := stat.bind _
    exe := exe_misses vanished
    commandLine := (blockBytes_misses vanished _).bind _
    environment := (blockBytes_misses vanished _).bind _
    workingDirectory := processLink_misses vanished _
    parent := stat.bind _
    status := stat.bind _
    userIds := processRecord_misses vanished _ _
    groupIds := processRecord_misses vanished _ _
    terminal := stat.bind _
    createTime := stat.bind _
    processCpuTimes := stat.bind _
    memoryInfo := (processRecord_misses vanished _ _).bind _
    memoryFullInfo := memoryFullInfo_misses vanished
    memoryMaps := processRecord_misses vanished _ _
    threadCount := stat.bind _
    threads := (processEntries_misses vanished _).bind _
    contextSwitches := (processText_misses vanished _).bind _
    ioCounters := processRecord_misses vanished _ _
    openFiles := (processEntries_misses vanished _).bind _
    descriptorCount := (processEntries_misses vanished _).bind _
    connections := Query.Misses.checked vanished.nonnegative (connections_misses vanished _)
    isZombie := stat.bind _ }

end vanished

end platforms

end Linux

/-- The same questions, asked by the layer that knows processes by signals. -/
theorem Cygwin.fromFiles_tells {answer : (c : Call) → c.Answer} {p : Linux.Probe} {a : Subject} :
    (platform p).FromFiles answer a fun q _ outcome => outcome.Reports (Linux.Tells answer p a q) where
  name := Linux.fromFiles_tells.name
  exe := Linux.tells (Procfs.reports_processLink (Linux.natural p answer) _)
  commandLine := Linux.tells (.bind (Linux.reports_blockBytes _) fun _ _ => .pure _)
  environment := Linux.fromFiles_tells.environment
  workingDirectory := Linux.fromFiles_tells.workingDirectory
  parent := Linux.fromFiles_tells.parent
  status := Linux.fromFiles_tells.status
  userIds := Linux.fromFiles_tells.userIds
  groupIds := Linux.fromFiles_tells.groupIds
  terminal := Linux.tells_unsupported (reports_notOffered _)
  createTime := Linux.fromFiles_tells.createTime
  processCpuTimes := Linux.fromFiles_tells.processCpuTimes
  memoryInfo := Linux.tells (.bind (Linux.reports_processRecord _ Procfs.Statm.reports_parse) fun _ _ =>
    .bind Linux.reports_processStat fun _ _ => .lift (Linux.reports_memoryOfPages _ _ _))
  memoryFullInfo := Linux.tells_unsupported (reports_notOffered _)
  memoryMaps := Linux.tells_unsupported (reports_notOffered _)
  threadCount := Linux.fromFiles_tells.threadCount
  threads := Linux.tells_unsupported (reports_notOffered _)
  contextSwitches := Linux.tells_unsupported (reports_notOffered _)
  ioCounters := Linux.tells_unsupported (reports_notOffered _)
  openFiles := Linux.fromFiles_tells.openFiles
  descriptorCount := Linux.fromFiles_tells.descriptorCount
  connections := Linux.tells_unsupported (reports_notOffered _)
  isZombie := Linux.fromFiles_tells.isZombie

namespace Linux

def noFiles : (c : Call) → c.Answer
  | .file (.read _) | .file (.list _) | .file (.readLink _) | .file (.info _) | .file (.linkInfo _)
  | .file (.openFile _) | .file (.readAt ..) => .error (.number ErrorNumber.noEntry)
  | c => Host.reply {} c

end Linux
end HostProbe
