import HostProbe.Proofs.Classification.Reports
import HostProbe.Proofs.Files
import HostProbe.Procfs.Processes
import HostProbe.Question

/-! Questions about a process that its files answer, and what the readers of such files report. -/
namespace HostProbe

/-! ### Questions -/

namespace Question

/-- Questions about a process that its files answer, where the system has such files. -/
def ofFiles : List Question :=
  [processName, exe, commandLine, environment, workingDirectory, parent, status, userIds, groupIds, terminal,
    createTime, processCpuTimes, memoryInfo, memoryFullInfo, memoryMaps, threadCount, threads, contextSwitches,
    ioCounters, openFiles, descriptorCount, connections, isZombie]

def outcome (answer : (c : Call) → c.Answer) (p : Platform) (a : Subject) (samples : Sampling) (q : Question) :
    Outcome Json :=
  (((q.ask p a).run.run samples).eval answer).1

/-- A question that leaves the samples alone comes to what its query does. -/
theorem outcome_ofQuery {α : Type} (answer : (c : Call) → c.Answer) (samples : Sampling) (document : α → Json)
    (query : Query α) :
    ((((do return document (← SampledQuery.ofQuery query)) : SampledQuery Json).run.run samples).eval answer).1 =
      (query.result answer).map document := by
  -- The samples are handed on untouched, so only the ending of the query is left to look at.
  change (Program.eval answer ((query.run >>= fun ended => Program.done (ended, samples)) >>= fun found =>
    (ExceptT.bindCont (fun a => pure (document a)) found.1 : StateT Sampling Program _) found.2)).1 = _
  rw [Program.eval_bind, Program.eval_bind]
  unfold Query.result
  cases query.run.eval answer <;> rfl

end Question

/-- Something is true of what each of these questions comes to, as its query has it. -/
structure Platform.FromFiles (answer : (c : Call) → c.Answer) (p : Platform) (a : Subject)
    (P : Question → (α : Type) → Outcome α → Prop) : Prop where
  name : P .processName _ ((p.name a.pid).result answer)
  exe : P .exe _ ((p.exe a.pid).result answer)
  commandLine : P .commandLine _ ((p.commandLine a.pid).result answer)
  environment : P .environment _ ((p.environment a.pid).result answer)
  workingDirectory : P .workingDirectory _ ((p.workingDirectory a.pid).result answer)
  parent : P .parent _ ((p.parent a.pid).result answer)
  status : P .status _ ((p.status a.pid).result answer)
  userIds : P .userIds _ ((p.userIds a.pid).result answer)
  groupIds : P .groupIds _ ((p.groupIds a.pid).result answer)
  terminal : P .terminal _ ((p.terminal a.pid).result answer)
  createTime : P .createTime _ ((p.createTime a.pid).result answer)
  processCpuTimes : P .processCpuTimes _ ((p.processCpuTimes a.pid).result answer)
  memoryInfo : P .memoryInfo _ ((p.memoryInfo a.pid).result answer)
  memoryFullInfo : P .memoryFullInfo _ ((p.memoryFullInfo a.pid).result answer)
  memoryMaps : P .memoryMaps _ ((p.memoryMaps a.pid).result answer)
  threadCount : P .threadCount _ ((p.threadCount a.pid).result answer)
  threads : P .threads _ ((p.threads a.pid).result answer)
  contextSwitches : P .contextSwitches _ ((p.contextSwitches a.pid).result answer)
  ioCounters : P .ioCounters _ ((p.ioCounters a.pid).result answer)
  openFiles : P .openFiles _ ((p.openFiles a.pid).result answer)
  descriptorCount : P .descriptorCount _ ((p.descriptorCount a.pid).result answer)
  connections : P .connections _ ((p.connections a.pid a.filter).result answer)
  isZombie : P .isZombie _ ((p.isZombie a.pid).result answer)

section questions

variable {answer : (c : Call) → c.Answer} {p : Platform} {a : Subject} {P : Question → (α : Type) → Outcome α → Prop}

/-- What is true of the queries' results, whichever documents they are written as, is true of the questions. -/
theorem Platform.FromFiles.outcome (fromFiles : p.FromFiles answer a P) (samples : Sampling)
    (written : ∀ (q : Question) (α β : Type) (outcome : Outcome α) (f : α → β),
      P q α outcome → P q β (outcome.map f)) :
    ∀ q ∈ Question.ofFiles, P q _ (q.outcome answer p a samples) := by
  have asked {α : Type} {q : Question} {query : Query α} (holds : P q _ (query.result answer)) (document : α → Json) :
      P q _ ((((do return document (← SampledQuery.ofQuery query)) :
        SampledQuery Json).run.run samples).eval answer).1 := by
    rw [Question.outcome_ofQuery]
    exact written q _ _ _ document holds
  simp only [Question.ofFiles, List.forall_mem_cons]
  exact ⟨asked fromFiles.name _, asked fromFiles.exe _, asked fromFiles.commandLine _,
    asked fromFiles.environment _, asked fromFiles.workingDirectory _, asked fromFiles.parent _,
    asked fromFiles.status _, asked fromFiles.userIds _, asked fromFiles.groupIds _, asked fromFiles.terminal _,
    asked fromFiles.createTime _, asked fromFiles.processCpuTimes _, asked fromFiles.memoryInfo _,
    asked fromFiles.memoryFullInfo _, asked fromFiles.memoryMaps _, asked fromFiles.threadCount _,
    asked fromFiles.threads _, asked fromFiles.contextSwitches _, asked fromFiles.ioCounters _,
    asked fromFiles.openFiles _, asked fromFiles.descriptorCount _, asked fromFiles.connections _,
    asked fromFiles.isZombie _, nofun⟩

end questions

def Error.IsUnsupported (error : Error) : Prop := ∃ what, error = .unsupported what

theorem reports_notOffered {α : Type} {answer : (c : Call) → c.Answer} (name : String) :
    (notOffered name : Query α).Reports answer Error.IsUnsupported := .report ⟨name, rfl⟩

/-! ### Readers of files -/

section readers

variable {α : Type} {answer : (c : Call) → c.Answer} {live : Liveness Program} {pid : Pid} {fs : Procfs}

theorem Query.Reports.onPath (call path : String) (question : Program (Except IoError α)) :
    (Query.onPath call path question).Reports answer Error.Raw := by
  refine .bind (.ofProgram _) fun outcome _ => ?_
  cases outcome with
  | ok a => exact .pure a
  | error cause => exact .report (.os _ cause)

theorem RecordLayout.reports_decode (layout : RecordLayout α) (path : String) (bytes : Bytes) :
    (layout.decode path bytes).Reports Error.Raw := .ofOption (.parse _ _) _

theorem RecordLayout.first?_eq_none_iff {layout : RecordLayout α} {bytes : Bytes} :
    layout.first? bytes = none ↔ bytes.length < layout.size := by
  rw [RecordLayout.first?, Option.map_eq_none_iff, Bytes.slice?]
  simp only [List.drop_zero, List.length_take, Nat.zero_le, or_true, and_true, ite_eq_right_iff, reduceCtorEq,
    imp_false]
  omega

namespace Procfs

theorem reports_processRecord (natural : live.Natural answer) (layout : RecordLayout α) (name : String) :
    (fs.processRecord live layout pid name).Reports answer (live.Explains answer pid) :=
  .bind (.checkPid natural) fun _ _ => .bind (.classifyFor natural (.onPath _ _ _)) fun bytes _ =>
    .classifyFor natural (.lift (layout.reports_decode _ bytes))

theorem reports_processEntries (natural : live.Natural answer) (name : String) :
    (fs.processEntries live pid name).Reports answer (live.Explains answer pid) := by
  refine .bind (.checkPid natural) fun _ _ => .bind (.ofProgram _) fun listed _ => ?_
  cases listed with
  | ok names => exact .pure names
  | error cause => exact .fail natural _ cause

theorem reports_processLink (natural : live.Natural answer) (name : String) :
    (fs.processLink live pid name).Reports answer (live.Explains answer pid) :=
  .bind (.checkPid natural) fun _ _ => .bind (.classifyFor natural (.onPath _ _ _)) fun _ _ => .pure _

theorem reports_addressSpace (natural : live.Natural answer) (pointerSize : Nat) :
    (fs.addressSpace live pid pointerSize).Reports answer (live.Explains answer pid) :=
  .bind (.classifyFor natural (.onPath _ _ _)) fun _ _ => .pure _

/-- Falling back on what a record holds reports nothing new. -/
theorem reports_argumentsOr {kind : Error → Prop} {full : Query (List String)} (reports : full.Reports answer kind)
    (short : List String) : (argumentsOr full short).Reports answer kind := by
  refine .bind (.attempt full) fun attempted ended => ?_
  split
  · exact .pure _
  · exact .pure _
  · exact .report (reports _ (Query.result_of_attempt_error ended))

end Procfs

end readers

end HostProbe
