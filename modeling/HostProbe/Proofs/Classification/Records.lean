import HostProbe.AIX
import HostProbe.Host
import HostProbe.Proofs.Classification.Processes
import HostProbe.SunOS

/-! Errors about processes on SunOS and AIX, whose process file systems are binary records. -/
namespace HostProbe

/-! ### The memory of a process -/

namespace AddressSpace

variable {answer : (c : Call) → c.Answer} {space : AddressSpace Program}

private theorem reports_add (a b : Nat) :
    (liftM (Word.add a b) : Query Nat).Reports answer Error.Raw := .lift (Word.reports_add a b)

theorem reports_readAt (address count : Nat) : Query.Reports answer Error.Raw (space.readAt address count) := by
  refine .bind (.ofProgram _) fun read _ => ?_
  cases read with
  | ok bytes => exact .pure bytes
  | error cause => exact .report (.os _ cause)

/-- Reading memory fails with nothing but errors of calls. -/
private theorem reports_readExact_go (address count fuel : Nat) (found : Bytes) :
    Query.Reports answer Error.Raw (readExact.go space address count fuel found) := by
  -- Each round reads behind what was found so far, which therefore varies.
  induction fuel generalizing found with
  | zero => exact .pure found
  | succ fuel ih =>
    unfold readExact.go
    split
    · exact .pure found
    · refine .bind (reports_add _ _) fun here _ => .bind (reports_readAt _ _) fun more _ => ?_
      split
      · exact .bind (.report (.os _ _)) fun _ _ => ih _
      · exact ih _

theorem reports_pointer (address : Nat) : Query.Reports answer Error.Raw (space.pointer address) :=
  .bind (reports_readExact_go _ _ _ _) fun _ _ => .pure _

private theorem reports_stringBytes_go (address fuel length : Nat) (chunks : List Bytes) :
    Query.Reports answer Error.Raw (stringBytes.go space address fuel length chunks) := by
  induction fuel generalizing length chunks with
  | zero => exact .pure _
  | succ fuel ih =>
    unfold stringBytes.go
    split
    · exact .pure _
    · refine .bind (reports_add _ _) fun here _ => .bind (reports_readAt _ _) fun chunk _ => ?_
      extract_lets text
      split
      · exact .pure _
      · exact ih _ _

theorem reports_string (address : Nat) : Query.Reports answer Error.Raw (space.string address) :=
  .bind (reports_stringBytes_go _ _ _ _) fun _ _ => .pure _

private theorem reports_strings_go (vector fuel i : Nat) (found : List String) :
    Query.Reports answer Error.Raw (strings.go space vector fuel i found) := by
  induction fuel generalizing i found with
  | zero => exact .pure _
  | succ fuel ih =>
    unfold strings.go
    refine .bind (reports_add _ _) fun place _ => .bind (reports_pointer _) fun p _ => ?_
    split
    · exact .pure _
    · exact .bind (reports_string _) fun _ _ => ih _ _

theorem reports_argv (vector count : Nat) : Query.Reports answer Error.Raw (space.argv vector count) :=
  reports_strings_go _ _ _ _

theorem reports_envp (vector : Nat) : Query.Reports answer Error.Raw (space.envp vector) := reports_strings_go _ _ _ _

end AddressSpace

/-! ### Signals -/

/-- A signal finds no process with a negative identifier. -/
theorem Posix.natural {answer : (c : Call) → c.Answer} (isZombie : Pid → Program Bool) :
    Liveness.Natural ⟨pidExists, isZombie⟩ answer := by
  intro pid negative
  change (pidExists pid).eval answer = false
  rw [pidExists, if_pos negative]
  rfl

/-! ### Records of threads -/

section threads

variable {answer : (c : Call) → c.Answer} {p : SunOS.Probe} {pid : Pid}

/-- Outcomes are collected up to the first one that failed. -/
private theorem mapM_eq_error {α β : Type} (f : α → Outcome β) {xs : List α} {x : α} (member : x ∈ xs) {fault : Fault}
    (failed : f x = .error fault) : ∃ y ∈ xs, ∃ fault, f y = .error fault ∧ xs.mapM f = .error fault := by
  induction xs with
  | nil => cases member
  | cons y ys ih =>
    cases first : f y with
    | error fault => exact ⟨y, List.mem_cons_self, fault, first, by rw [List.mapM_cons, first]; rfl⟩
    | ok b =>
      have later : x ∈ ys := by
        obtain rfl | later := List.mem_cons.mp member
        · cases first.symm.trans failed
        · exact later
      obtain ⟨z, among, fault, failed, collected⟩ := ih later
      exact ⟨z, List.mem_cons_of_mem _ among, fault, failed, by rw [List.mapM_cons, first, collected]; rfl⟩

namespace SunOS

def Probe.threadPath (p : Probe) (pid : Pid) (thread : String) : String :=
  Path.join (Path.join (p.procfs.pidPath pid "lwp") thread) "lwpusage"

/-- The error is that the record of a thread is too short, and it was not classified. -/
def Probe.OfThread (p : Probe) (pid : Pid) (error : Error) : Prop :=
  ∃ thread detail, error = .parse (p.threadPath pid thread) detail

def Probe.threadTimes (p : Probe) (pid : Pid) (thread : String) : Query (Option ThreadTimes) := do
  match ← (Ask.file (.read (p.threadPath pid thread)) : Program (Except IoError Bytes)) with
  | .error _ => return none
  | .ok bytes =>
    let usage ← Query.lift (Usage.layout.decode (p.threadPath pid thread) bytes)
    return some { id := usage.thread.toNat, user := usage.user, system := usage.system : ThreadTimes }

/-- Threads are read by their entries, and those that have exited are left out. -/
theorem threads_eq : p.threads pid = (do
    let names ← p.procfs.processEntries p.live pid "lwp"
    let found ← names.mapM (p.threadTimes pid)
    return (found.filterMap id).mergeSort fun a b => a.id ≤ b.id) := by
  unfold Probe.threads
  refine bind_congr fun names => congrArg (· >>= _) (congrArg (names.mapM ·) (funext fun thread => ?_))
  -- Both sides look at the same answer, but only a known one makes them equal by computation.
  refine bind_congr fun read => ?_
  cases read <;> rfl

/-- The times of a thread cannot be told where its record is short, and only there. -/
theorem threadTimes_eq_error_iff {thread : String} {fault : Fault} :
    (p.threadTimes pid thread).result answer = .error fault ↔
      ∃ bytes, answer (.file (.read (p.threadPath pid thread))) = .ok bytes ∧ bytes.length < Usage.layout.size ∧
        fault = .report (.parse (p.threadPath pid thread)
          s!"short read: {bytes.length} bytes, want {Usage.layout.size}") := by
  have asked : (liftM (Ask.file (.read (p.threadPath pid thread))) : Query (Except IoError Bytes)).result answer =
      .ok (answer (.file (.read (p.threadPath pid thread)))) := by
    rw [Query.result_ofProgram, Ask.eval_file]
  rw [Probe.threadTimes, Query.result_bind_of_ok answer asked]
  cases answer (.file (.read (p.threadPath pid thread))) with
  | error cause =>
    constructor
    · exact nofun
    · rintro ⟨bytes, ⟨⟩, -⟩
  | ok bytes =>
    dsimp only
    rw [Query.result_bind, Query.result_lift, RecordLayout.decode]
    cases read : Usage.layout.first? bytes with
    | none =>
      have short := RecordLayout.first?_eq_none_iff.mp read
      constructor
      · rintro ⟨⟩
        exact ⟨bytes, rfl, short, rfl⟩
      · rintro ⟨_, ⟨⟩, -, rfl⟩
        rfl
    | some usage =>
      constructor
      · exact nofun
      · rintro ⟨_, ⟨⟩, short, -⟩
        cases read.symm.trans (RecordLayout.first?_eq_none_iff.mpr short)

/-- A short record of a thread is reported as it is, whether the process is there or not. -/
theorem threads_of_short (natural : 0 ≤ pid) {names : List String}
    (listed : answer (.file (.list (p.procfs.pidPath pid "lwp"))) = .ok names) {thread : String}
    (member : thread ∈ names) {bytes : Bytes}
    (read : answer (.file (.read (p.threadPath pid thread))) = .ok bytes)
    (short : bytes.length < Usage.layout.size) :
    ∃ error, p.OfThread pid error ∧ (p.threads pid).result answer = .error (.report error) := by
  have entries : (p.procfs.processEntries p.live pid "lwp").result answer = .ok names := by
    rw [Procfs.processEntries, Query.result_bind_of_ok answer (Query.result_checkPid natural), Query.result_bind,
      Query.result_ofProgram, Ask.eval_file, listed]
    rfl
  obtain ⟨other, -, fault, failed, collected⟩ :=
    mapM_eq_error (fun thread => (p.threadTimes pid thread).result answer) member
      (threadTimes_eq_error_iff.mpr ⟨bytes, read, short, rfl⟩)
  have ended : (p.threads pid).result answer = .error fault := by
    rw [threads_eq, Query.result_bind_of_ok answer entries, Query.result_bind, Query.result_mapM, collected]
    rfl
  obtain ⟨_, -, -, rfl⟩ := threadTimes_eq_error_iff.mp failed
  exact ⟨_, ⟨other, _, rfl⟩, ended⟩

end SunOS

end threads

/-! ### Queries -/

section queries

variable {answer : (c : Call) → c.Answer} {pid : Pid}

namespace SunOS

variable {p : Probe}

theorem natural : p.live.Natural answer := Posix.natural _

theorem reports_info : (p.info pid).Reports answer (p.live.Explains answer pid) :=
  Procfs.reports_processRecord natural _ _

theorem reports_usage : (p.usage pid).Reports answer (p.live.Explains answer pid) :=
  Procfs.reports_processRecord natural _ _

theorem reports_commandLine : (p.commandLine pid).Reports answer (p.live.Explains answer pid) :=
  .bind reports_info fun _ _ => Procfs.reports_argumentsOr
    (.bind (Procfs.reports_addressSpace natural _) fun _ _ => .classifyFor natural (AddressSpace.reports_argv _ _)) _

theorem reports_environment : (p.environment pid).Reports answer (p.live.Explains answer pid) :=
  .bind reports_info fun _ _ => .bind (Procfs.reports_addressSpace natural _) fun _ _ =>
    .bind (.classifyFor natural (AddressSpace.reports_envp _)) fun _ _ => .pure _

theorem reports_terminal : (p.terminal pid).Reports answer (p.live.Explains answer pid) := by
  refine .bind reports_info fun info _ => ?_
  split
  · exact .pure _
  · exact .ofProgram _

theorem reports_memoryInfo : (p.memoryInfo pid).Reports answer (p.live.Explains answer pid) :=
  .bind reports_info fun _ _ => .bind reports_usage fun _ _ => .bind (.lift (Word.reports_mul _ _)) fun _ _ =>
    .bind (.lift (Word.reports_mul _ _)) fun _ _ => .bind (.lift (Word.reports_add _ _)) fun _ _ => .pure _

theorem reports_openFiles : (p.openFiles pid).Reports answer (p.live.Explains answer pid) := by
  refine .bind (Procfs.reports_processEntries natural _) fun names _ => .bind (.mapM (fun name => ?_) _)
    fun _ _ => .pure _
  unfold Probe.openFile
  split
  · exact .pure _
  · refine .bind (.ofProgram _) fun found _ => ?_
    split
    · exact .pure _
    · split
      · exact .pure _
      · exact .bind (.answer? _) fun _ _ => .pure _

theorem reports_threads : (p.threads pid).Reports answer fun error =>
    p.live.Explains answer pid error ∨ p.OfThread pid error := by
  rw [threads_eq]
  refine .bind ((Procfs.reports_processEntries natural _).imp fun _ => .inl) fun names _ =>
    .bind (.mapM (fun thread error failed => ?_) _) fun _ _ => .pure _
  obtain ⟨bytes, -, -, ⟨⟩⟩ := threadTimes_eq_error_iff.mp failed
  exact .inr ⟨thread, _, rfl⟩

end SunOS

namespace AIX

variable {p : Probe}

theorem natural : p.live.Natural answer := Posix.natural _

theorem reports_info : (p.info pid).Reports answer (p.live.Explains answer pid) :=
  Procfs.reports_processRecord natural _ _

theorem reports_addressSpace : (p.addressSpace pid).Reports answer (p.live.Explains answer pid) :=
  .bind (Procfs.reports_processRecord natural _ _) fun _ _ => Procfs.reports_addressSpace natural _

theorem reports_commandLine : (p.commandLine pid).Reports answer (p.live.Explains answer pid) :=
  .bind reports_info fun _ _ => Procfs.reports_argumentsOr
    (.bind reports_addressSpace fun _ _ => .classifyFor natural (AddressSpace.reports_argv _ _)) _

theorem reports_environment : (p.environment pid).Reports answer (p.live.Explains answer pid) :=
  .bind reports_info fun _ _ => .bind reports_addressSpace fun _ _ =>
    .bind (.classifyFor natural (AddressSpace.reports_envp _)) fun _ _ => .pure _

theorem reports_terminal : (p.terminal pid).Reports answer (p.live.Explains answer pid) := by
  refine .bind reports_info fun info _ => ?_
  split
  · exact .pure _
  · exact .ofProgram _

theorem reports_memoryInfo : (p.memoryInfo pid).Reports answer (p.live.Explains answer pid) :=
  .bind reports_info fun _ _ => .bind (.lift (Word.reports_mul _ _)) fun _ _ =>
    .bind (.lift (Word.reports_mul _ _)) fun _ _ => .pure _

theorem reports_exe : (p.exe pid).Reports answer fun error =>
    p.live.Explains answer pid error ∨ error.IsUnsupported := by
  refine .bind (reports_commandLine.imp fun _ => .inl) fun args _ => .bind (.answer? _) fun directory _ =>
    .bind (.answer? _) fun environment _ => ?_
  refine .bind (.ofProgram _) fun resolved _ => ?_
  cases resolved with
  | some path => exact .pure _
  | none => exact .report (.inr ⟨_, rfl⟩)

end AIX

end queries

/-! ### Platforms -/

section platforms

variable {answer : (c : Call) → c.Answer} {a : Subject}

/-- Errors that a question may be answered with on SunOS: explained by what is known of the process, about something
that is not offered, or of the record of one of its threads. -/
def SunOS.Tells (answer : (c : Call) → c.Answer) (p : Probe) (a : Subject) (q : Question) (error : Error) : Prop :=
  p.live.Explains answer a.pid error ∨ error.IsUnsupported ∨ (q = .threads ∧ p.OfThread a.pid error)

/-- Errors that a question may be answered with on AIX: explained by what is known of the process, or about something
that is not offered. -/
def AIX.Tells (answer : (c : Call) → c.Answer) (p : Probe) (a : Subject) (error : Error) : Prop :=
  p.live.Explains answer a.pid error ∨ error.IsUnsupported

/-- Every question that the files of a process answer fails as it may, but for the records of threads. -/
theorem SunOS.fromFiles_tells {p : Probe} :
    (platform p).FromFiles answer a fun q _ outcome => outcome.Reports (Tells answer p a q) :=
  have tells {q : Question} {α : Type} {query : Query α}
      (explained : query.Reports answer (p.live.Explains answer a.pid)) : query.Reports answer (Tells answer p a q) :=
    explained.imp fun _ => .inl
  have away {q : Question} {α : Type} (name : String) :
      (notOffered name : Query α).Reports answer (Tells answer p a q) :=
    (reports_notOffered name).imp fun _ unsupported => .inr (.inl unsupported)
  { name := tells (.bind reports_info fun _ _ => .pure _)
    exe := tells (Procfs.reports_processLink natural _)
    commandLine := tells reports_commandLine
    environment := tells reports_environment
    workingDirectory := tells (Procfs.reports_processLink natural _)
    parent := tells (.bind reports_info fun _ _ => .pure _)
    status := tells (.bind reports_info fun _ _ => .pure _)
    userIds := tells (.bind (Procfs.reports_processRecord natural _ _) fun _ _ => .pure _)
    groupIds := tells (.bind (Procfs.reports_processRecord natural _ _) fun _ _ => .pure _)
    terminal := tells reports_terminal
    createTime := tells (.bind reports_info fun _ _ => .pure _)
    processCpuTimes := tells (.bind reports_usage fun _ _ => .pure _)
    memoryInfo := tells reports_memoryInfo
    memoryFullInfo := away _
    memoryMaps := away _
    threadCount := tells (.bind reports_info fun _ _ => .pure _)
    threads := reports_threads.imp fun _ told => told.imp_right fun ofThread => .inr ⟨rfl, ofThread⟩
    contextSwitches := tells (.bind reports_usage fun _ _ => .pure _)
    ioCounters := tells (.bind reports_usage fun _ _ => .pure _)
    openFiles := tells reports_openFiles
    descriptorCount := tells (.bind (Procfs.reports_processEntries natural _) fun _ _ => .pure _)
    connections := away _
    isZombie := tells (.bind reports_info fun _ _ => .pure _) }

/-- Every question that the files of a process answer fails as it may. -/
theorem AIX.fromFiles_tells {p : Probe} :
    (platform p).FromFiles answer a fun _ _ outcome => outcome.Reports (Tells answer p a) :=
  have tells {α : Type} {query : Query α} (explained : query.Reports answer (p.live.Explains answer a.pid)) :
      query.Reports answer (Tells answer p a) := explained.imp fun _ => .inl
  have away {α : Type} (name : String) : (notOffered name : Query α).Reports answer (Tells answer p a) :=
    (reports_notOffered name).imp fun _ => .inr
  { name := tells (.bind reports_info fun _ _ => .pure _)
    exe := reports_exe
    commandLine := tells reports_commandLine
    environment := tells reports_environment
    workingDirectory := tells (Procfs.reports_processLink natural _)
    parent := tells (.bind reports_info fun _ _ => .pure _)
    status := tells (.bind reports_info fun _ _ => .pure _)
    userIds := tells (.bind (Procfs.reports_processRecord natural _ _) fun _ _ => .pure _)
    groupIds := tells (.bind (Procfs.reports_processRecord natural _ _) fun _ _ => .pure _)
    terminal := tells reports_terminal
    createTime := tells (.bind reports_info fun _ _ => .pure _)
    processCpuTimes := tells (.bind (Procfs.reports_processRecord natural _ _) fun _ _ => .pure _)
    memoryInfo := tells reports_memoryInfo
    memoryFullInfo := away _
    memoryMaps := away _
    threadCount := tells (.bind reports_info fun _ _ => .pure _)
    threads := away _
    contextSwitches := away _
    ioCounters := away _
    openFiles := away _
    descriptorCount := tells (.bind (Procfs.reports_processEntries natural _) fun _ _ => .pure _)
    connections := away _
    isZombie := tells (.bind reports_info fun _ _ => .pure _) }

end platforms

/-! ### Both systems -/

/-- Errors about a process on SunOS and AIX agree with what is known of it, as signals and the record of the process
tell it, or are about something that is not offered. The one exception is on SunOS: the record of a thread that is too
short is reported as such, whatever is known of the process. -/
theorem record_errors_explained (answer : (c : Call) → c.Answer) (s : SunOS.Probe) (x : AIX.Probe) (a : Subject)
    (samples : Sampling) :
    (∀ q ∈ Question.ofFiles, ∀ error, q.outcome answer (SunOS.platform s) a samples = .error (.report error) →
      SunOS.Tells answer s a q error) ∧
    (∀ q ∈ Question.ofFiles, ∀ error, q.outcome answer (AIX.platform x) a samples = .error (.report error) →
      AIX.Tells answer x a error) ∧
    ∀ names, answer (.file (.list (s.procfs.pidPath a.pid "lwp"))) = .ok names → ∀ thread ∈ names, ∀ bytes,
      answer (.file (.read (s.threadPath a.pid thread))) = .ok bytes → bytes.length < SunOS.Usage.layout.size →
      0 ≤ a.pid → ∃ error, s.OfThread a.pid error ∧
        Question.threads.outcome answer (SunOS.platform s) a samples = .error (.report error) := by
  refine ⟨SunOS.fromFiles_tells.outcome samples fun _ _ _ _ f reports => reports.map f,
    AIX.fromFiles_tells.outcome samples fun _ _ _ _ f reports => reports.map f, ?_⟩
  intro names listed thread member bytes read short natural
  obtain ⟨error, ofThread, ended⟩ := SunOS.threads_of_short natural listed member read short
  refine ⟨error, ofThread, ?_⟩
  refine (Question.outcome_ofQuery answer samples _ (s.threads a.pid)).trans ?_
  rw [ended]
  rfl

/-- A process that is gone, but for the directory of a thread whose record is cut short. -/
def exitingProcess : (c : Call) → c.Answer
  | .file (.list path) => if path = "/proc/42/lwp" then .ok ["1"] else .error (.number ErrorNumber.noEntry)
  | .file (.read path) =>
    if path = "/proc/42/lwp/1/lwpusage" then .ok [0, 0, 0, 1] else .error (.number ErrorNumber.noEntry)
  | c => Host.reply {} c

/-- The short record is reported on SunOS; what AIX is asked of the process is answered with its absence. -/
theorem record_errors_explained_exitingProcess : ∃ error, SunOS.Probe.OfThread { procfs := ⟨"/proc"⟩ } 42 error ∧
    Question.threads.outcome exitingProcess (SunOS.platform { procfs := ⟨"/proc"⟩ }) { pid := 42 } {} =
      .error (.report error) ∧
    SunOS.Tells exitingProcess { procfs := ⟨"/proc"⟩ } { pid := 42 } .threads error ∧
    Question.status.outcome exitingProcess (AIX.platform { procfs := ⟨"/proc"⟩ }) { pid := 42 } {} =
      .error (.report (.notFound 42)) ∧
    AIX.Tells exitingProcess { procfs := ⟨"/proc"⟩ } { pid := 42 } (.notFound 42) := by
  obtain ⟨told, toldOfStatus, threads⟩ :=
    record_errors_explained exitingProcess { procfs := ⟨"/proc"⟩ } { procfs := ⟨"/proc"⟩ } { pid := 42 } {}
  obtain ⟨error, ofThread, ended⟩ := threads ["1"] rfl "1" (by decide) [0, 0, 0, 1] rfl (by decide) (by decide)
  have missing : Question.status.outcome exitingProcess (AIX.platform { procfs := ⟨"/proc"⟩ }) { pid := 42 } {} =
      .error (.report (.notFound 42)) := rfl
  exact ⟨error, ofThread, ended, told .threads (by decide) error ended, missing,
    toldOfStatus .status (by decide) _ missing⟩

/-- No signal finds the process, but its threads are answered with a record that cannot be read. -/
theorem gone_process_unreadable :
    ((SunOS.platform { procfs := ⟨"/proc"⟩ }).pidExists 42).result exitingProcess = .ok false ∧ ∃ path detail,
      Question.threads.outcome exitingProcess (SunOS.platform { procfs := ⟨"/proc"⟩ }) { pid := 42 } {} =
        .error (.report (.parse path detail)) := ⟨by decide +kernel, _, _, rfl⟩

end HostProbe
