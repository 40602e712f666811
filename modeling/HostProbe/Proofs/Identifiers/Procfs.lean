import HostProbe.Proofs.Identifiers.Operations

/-! Guards of the operations that read a process file system: on Linux and Cygwin, where its files are text, and on
SunOS and AIX, where they are records. -/
namespace HostProbe

section guards

variable {α : Type} {pid : Pid} {zero : Bool}

/-! ### The memory of a process -/

namespace AddressSpace

variable {allowed : Call → Prop} {space : AddressSpace Program}

theorem within_readAt (reads : ∀ address count, (space.read address count).Within allowed) (address count : Nat) :
    Query.Within allowed (space.readAt address count) := by
  refine .ask (reads address count) fun read => ?_
  cases read with
  | ok bytes => exact .pure _
  | error cause => exact .throw _

private theorem within_readExact_go (reads : ∀ address count, (space.read address count).Within allowed)
    (address count fuel : Nat) (found : Bytes) :
    Query.Within allowed (readExact.go space address count fuel found) := by
  induction fuel generalizing found with
  | zero => exact .pure _
  | succ fuel ih =>
    unfold readExact.go
    refine .ite (.pure _) (.bind (.lift _) fun place => .bind (within_readAt reads _ _) fun more => ?_)
    exact .ite (.bind (.throw _) fun _ => ih _) (ih _)

theorem within_pointer (reads : ∀ address count, (space.read address count).Within allowed) (address : Nat) :
    Query.Within allowed (space.pointer address) :=
  .bind (within_readExact_go reads _ _ _ _) fun _ => .pure _

private theorem within_stringBytes_go (reads : ∀ address count, (space.read address count).Within allowed)
    (address fuel length : Nat) (chunks : List Bytes) :
    Query.Within allowed (stringBytes.go space address fuel length chunks) := by
  induction fuel generalizing length chunks with
  | zero => exact .pure _
  | succ fuel ih =>
    unfold stringBytes.go
    refine .ite (.pure _) (.bind (.lift _) fun place => .bind (within_readAt reads _ _) fun chunk => ?_)
    exact .ite (.pure _) (ih _ _)

private theorem within_strings_go (reads : ∀ address count, (space.read address count).Within allowed)
    (vector fuel i : Nat) (found : List String) :
    Query.Within allowed (strings.go space vector fuel i found) := by
  induction fuel generalizing i found with
  | zero => exact .pure _
  | succ fuel ih =>
    unfold strings.go
    refine .bind (.lift _) fun place => .bind (within_pointer reads _) fun p => .ite (.pure _) ?_
    exact .bind (.bind (within_stringBytes_go reads _ _ _ _) fun _ => .pure _) fun text => ih _ _

theorem within_argv (reads : ∀ address count, (space.read address count).Within allowed) (vector count : Nat) :
    Query.Within allowed (space.argv vector count) := within_strings_go reads _ _ _ _

theorem within_envp (reads : ∀ address count, (space.read address count).Within allowed) (vector : Nat) :
    Query.Within allowed (space.envp vector) := within_strings_go reads _ _ _ _

end AddressSpace

/-! ### Files of a process -/

namespace Procfs

variable {fs : Procfs} {live : Liveness Program}

theorem within_readText (path : String) : Query.Within (Aims pid zero) (Procfs.readText path) :=
  .onPath _ _ (.readText _)

theorem within_list (path : String) : Query.Within (Aims pid zero) (Procfs.list path) := .onPath _ _ (.file _)

theorem guarded_processRecord (within : live.Within (Aims pid zero) pid) (layout : RecordLayout α) (name : String) :
    (fs.processRecord live layout pid name).Guarded pid zero :=
  .checked fun _ => .bind (.classifyFor within (.onPath _ _ (.file _))) fun _ => .classifyFor within (.lift _)

theorem guarded_processEntries (within : live.Within (Aims pid zero) pid) (name : String) :
    (fs.processEntries live pid name).Guarded pid zero := by
  refine .checked fun _ => .ask (.file _) fun listed => ?_
  cases listed with
  | ok names => exact .pure _
  | error cause => exact .fail within _ _

theorem guarded_processLink (within : live.Within (Aims pid zero) pid) (name : String) :
    (fs.processLink live pid name).Guarded pid zero :=
  .checked fun _ => .bind (.classifyFor within (.onPath _ _ (.file _))) fun _ => .pure _

/-- What is read of the memory of a process is read from its file. -/
theorem within_addressSpace {f : AddressSpace Program → Query α} (within : live.Within (Aims pid zero) pid)
    (pointerSize : Nat)
    (rest : ∀ space : AddressSpace Program, (∀ address count, (space.read address count).Within (Aims pid zero)) →
      Query.Within (Aims pid zero) (f space)) :
    Query.Within (Aims pid zero) (fs.addressSpace live pid pointerSize >>= f) := by
  simp only [addressSpace, bind_assoc, pure_bind]
  exact .bind (.classifyFor within (.onPath _ _ (.file _))) fun _ => rest _ fun _ _ => .file _

theorem within_argumentsOr {full : Query (List String)} (within : Query.Within (Aims pid zero) full)
    (short : List String) : Query.Within (Aims pid zero) (argumentsOr full short) := by
  refine .bind (.attempt within) fun attempted => ?_
  match attempted with
  | .ok args => exact .pure _
  | .error (.permissionDenied ..) => exact .pure _
  | .error (.notFound _) | .error (.noSuchDevice _) | .error (.zombieProcess _) | .error (.unsupported _)
  | .error (.os ..) | .error (.processOs ..) | .error (.outOfMemory _) | .error (.parse ..) => exact .report _

theorem within_recordShows (layout : RecordLayout α) (name : String) (shows : α → Bool) (id : Pid) :
    (fs.recordShows layout name shows id).Within (Aims pid zero) := by
  have read : (fs.readPidBytes id name).run.Within (Aims pid zero) := Query.Within.onPath _ _ (.file _)
  refine .bind read fun ended => ?_
  cases ended with
  | ok bytes => exact .pure _
  | error fault => exact .pure _

end Procfs

/-! ### Footprints -/

namespace Scanner

variable {allowed : Call → Prop} {read : (offset count : Nat) → Program (Except IoError Bytes)}

theorem within_refill (reads : ∀ offset count, (read offset count).Within allowed) (s : Scanner) :
    (s.refill read).Within allowed := by
  unfold refill
  split
  · exact .pure _
  refine .bind (reads _ _) fun got => ?_
  cases got with
  | error cause => exact .pure _
  | ok bytes => exact .pure _

theorem within_seek (reads : ∀ offset count, (read offset count).Within allowed) (fuel : Nat) (s : Scanner) :
    (seek read fuel s).Within allowed := by
  induction fuel generalizing s with
  | zero => exact .pure _
  | succ fuel ih =>
    simp only [seek]
    split
    · exact .pure _
    split
    · split
      · exact .pure _
      · exact .pure _
    split
    · exact .pure _
    refine .bind (within_refill reads s) fun filled => ?_
    cases filled with
    | error cause => exact .pure _
    | ok s => exact ih s

end Scanner

namespace Footprint

variable {allowed : Call → Prop} {read : (offset count : Nat) → Program (Except IoError Bytes)}

theorem within_sumLines (reads : ∀ offset count, (read offset count).Within allowed) (fuel : Nat) (totals : Totals)
    (scanner : Scanner) : (sumLines read fuel totals scanner).Within allowed := by
  induction fuel generalizing totals scanner with
  | zero => exact .pure _
  | succ fuel ih =>
    refine .bind (Scanner.within_seek reads _ _) fun turn => ?_
    match turn with
    | (.error cause, scanner) => exact .pure _
    | (.ok none, scanner) => exact .pure _
    | (.ok (some line), scanner) =>
      dsimp only
      split
      · exact ih _ _
      · exact .pure _

namespace Querier

theorem within_scan (path : String) (scanner : Scanner) : (scan path scanner).Within (Aims pid zero) := by
  refine .bind (.file _) fun opened => ?_
  cases opened with
  | error cause => exact .pure _
  | ok done => exact .bind (within_sumLines (fun _ _ => .file _) _ _ _) fun _ => .pure _

theorem within_readPageCounts (q : Querier) : q.readPageCounts.Within (Aims pid zero) := by
  refine .bind (.file _) fun opened => ?_
  cases opened with
  | error cause => exact .pure _
  | ok done =>
    refine .bind (.file _) fun got => ?_
    cases got with
    | error cause => exact .pure _
    | ok bytes => exact .pure _

theorem within_new (fs : Procfs) (target : Target) : (new fs target).Within (Aims pid zero) := by
  have size (source : Source) (base : String) : Program.Within (Aims pid zero) (do
      let pageSize ← Ask.posix (.setting .pageSize)
      return ({ base, source, pageSize := pageSize.toNat } : Querier)) := .bind (.posix rfl) fun _ => .pure _
  refine .bind (.fileExists _) fun rollup => .bind (.fileExists _) fun mappings => ?_
  exact .ite (.bind (.pure _) fun _ => size _ _)
    (.ite (.bind (.pure _) fun _ => size _ _) (.bind (.pure _) fun _ => size _ _))

theorem within_footprint (q : Querier) : q.footprint.Within (Aims pid zero) := by
  unfold footprint
  split
  · exact .bind (within_scan _ _) fun _ => .pure _
  · exact .bind (within_scan _ _) fun _ => .pure _
  · exact .bind (within_readPageCounts q) fun _ => .pure _

end Querier
end Footprint

/-! ### Linux and Cygwin -/

namespace Linux

variable {p : Probe}

theorem within_live : p.live.Within (Aims pid zero) pid :=
  Probe.live_within (fun _ => .of_none rfl) fun positive => .of_process (congrArg some (Reach.ofPid_of_pos positive))

theorem guarded_processText (name : String) : (p.processText pid name).Guarded pid zero :=
  .checked fun _ => .classifyFor within_live (Procfs.within_readText _)

theorem guarded_processRecord (name : String) (parse : Text → Outcome α) :
    (p.processRecord pid name parse).Guarded pid zero :=
  (guarded_processText name).bind fun _ _ => .classifyFor within_live (.lift _)

theorem guarded_processStat : (p.processStat pid).Guarded pid zero := guarded_processRecord _ _

theorem guarded_blockBytes (name : String) : (p.blockBytes pid name).Guarded pid zero :=
  .checked fun _ => .classifyFor within_live (.onPath _ _ (.file _))

theorem guarded_openFiles : (p.openFiles pid).Guarded pid zero := by
  have entry (dir name : String) : (Probe.fileOfEntry dir name).Within (Aims pid zero) := by
    unfold Probe.fileOfEntry
    split
    · exact .pure _
    refine .bind (.file _) fun target => ?_
    cases target with
    | error cause => exact .pure _
    | ok target =>
      dsimp only
      split
      · exact .pure _
      refine .bind (.file _) fun told => ?_
      cases told with
      | ok info => exact .pure _
      | error cause => exact .pure _
  exact (Procfs.guarded_processEntries within_live _).bind fun _ _ =>
    .bind (.mapM (fun _ => .ofProgram (entry _ _)) _) fun _ => .pure _

theorem guarded_threads : (p.threads pid).Guarded pid zero := by
  refine (Procfs.guarded_processEntries within_live _).bind fun _ names => .bind (.mapM (fun name => ?_) _)
    fun _ => .pure _
  unfold Probe.threadOfEntry
  split
  · exact .pure _
  refine .ask (.readText _) fun read => ?_
  cases read with
  | error cause => exact .pure _
  | ok text => exact .bind (.classifyFor within_live (.lift _)) fun _ => .pure _

theorem guarded_exe : (p.exe pid).Guarded pid zero := by
  refine .checked fun _ => .bind (.attempt (.onPath _ _ (.file _))) fun attempted => ?_
  cases attempted with
  | ok target => exact .pure _
  | error error =>
    have classified : Query.Within (Aims pid zero) (p.live.classifyFor pid (Query.report error : Query String)) :=
      .classifyFor within_live (.report _)
    refine .ite (.ask within_live.pidExists fun found => .ite ?_ classified) classified
    exact .ask within_live.isZombie fun ended => .ite (.pure _) classified

theorem guarded_terminal : (p.terminal pid).Guarded pid zero := by
  refine guarded_processStat.bind fun _ stat => .ofProgram ?_
  unfold Probe.terminalName
  split
  · exact .pure _
  · exact Posix.within_deviceIn _ _

theorem within_bootTime : Query.Within (Aims pid zero) p.bootTime := by
  have stat : Query.Within (Aims pid zero) p.stat := .bind (Procfs.within_readText _) fun _ => .lift _
  refine .bind stat fun stat => ?_
  have uptime : Query.Within (Aims pid zero) (do
      let now ← (Probe.now : Program Float)
      Query.lift (Procfs.bootTimeFromUptime (← p.procfs.read "uptime") now)) :=
    .ask (.bind (.posix rfl) fun _ => .pure _) fun _ => .bind (Procfs.within_readText _) fun _ => .lift _
  cases stat.bootTime with
  | some seconds => exact .pure _
  | none => exact uptime

theorem guarded_createTime : (p.createTime pid).Guarded pid zero :=
  guarded_processStat.bind fun _ _ => .bind within_bootTime fun _ => .pure _

theorem guarded_memoryInfo : (p.memoryInfo pid).Guarded pid zero := by
  refine (guarded_processRecord _ _).bind fun _ statm => .bind guarded_processStat.within fun stat =>
    .bind (.answer? (guarded_processText _).within) fun status => ?_
  cases status with
  | none => exact .bind (.pure _) fun _ => .lift _
  | some status => exact .bind (.lift _) fun _ => .lift _

theorem guarded_memoryFullInfo : (p.memoryFullInfo pid).Guarded pid zero := by
  refine .checked fun _ => .ask (Footprint.Querier.within_new _ _) fun querier =>
    .ask (Footprint.Querier.within_footprint querier) fun found => ?_
  split
  · exact .lift _
  · exact .fail within_live _ _
  · exact .throw _

theorem guarded_contextSwitches : (p.contextSwitches pid).Guarded pid zero :=
  (guarded_processText _).bind fun _ _ => .lift _

theorem guarded_connections (filter : ConnectionFilter) :
    ((platform p).connections pid filter).Guarded pid zero := by
  have entry (dir name : String) : (Probe.socketOfEntry dir pid name).Within (Aims pid zero) := by
    unfold Probe.socketOfEntry
    split
    · exact .pure _
    refine .bind (.file _) fun target => ?_
    cases target with
    | error cause => exact .pure _
    | ok target => exact .pure _
  have holders : Query.Within (Aims pid zero) (p.holders (some pid)) :=
    .classifyFor within_live (.bind (Procfs.within_list _) fun _ =>
      .bind (.mapM (fun _ => .ofProgram (entry _ _)) _) fun _ => .pure _)
  have table (name : String) : Query.Within (Aims pid zero) (p.socketTable name) := by
    refine .bind (.attempt (Procfs.within_readText _)) fun attempted => ?_
    split
    · exact .pure _
    · exact .ite (.pure _) (.report _)
    · exact .report _
  have internet (entry : String × FamilySet × SocketTypeSet) :
      Query.Within (Aims pid zero) (p.internetSockets filter entry) := by
    refine .ite (.pure _) (.bind (table _) fun text => ?_)
    cases text with
    | none => exact .pure _
    | some text => exact .bind (.lift _) fun _ => .pure _
  have unix : Query.Within (Aims pid zero) (p.localSockets filter) := by
    refine .ite (.pure _) (.bind (table _) fun text => ?_)
    cases text with
    | none => exact .pure _
    | some text => exact .bind (.lift _) fun _ => .pure _
  exact .checked fun _ => .bind holders fun _ => .bind (.mapM internet _) fun _ => .bind unix fun _ => .pure _

/-- A policy without room for the first mask lets nothing be asked. -/
theorem guarded_cpuAffinity :
    (p.cpuAffinity pid).Guarded pid (callOnZero? p .cpuAffinity).isSome := by
  refine .checked fun nonnegative => .bind ?_ fun _ => .pure _
  simp only [callOnZero?]
  split
  · refine .untilFits fun buffer => .ask (.call (.of_nonnegative rfl nonnegative)) fun answered => ?_
    cases answered with
    | ok words => exact .pure _
    | error cause => exact .ite (.pure _) (.fail within_live _ _)
  · rename_i cramped
    change Query.Within _ (Growth.loop p.context.buffers _ _ _ _ p.context.buffers.maxAttempts (max 16 1))
    cases attempts : p.context.buffers.maxAttempts with
    | zero => exact .throw _
    | succ remaining =>
      have exceeds : max 16 1 > p.context.buffers.maxSize / max 8 1 := show 16 > p.context.buffers.maxSize / 8 by omega
      rw [Growth.loop_succ, if_pos exceeds]
      exact .throw _

theorem guarded_setCpuAffinity (cpus : List Nat) :
    (p.setCpuAffinity pid cpus).Guarded pid (callOnZero? p (.setCpuAffinity cpus)).isSome := by
  refine .checked fun nonnegative => ?_
  cases cpus with
  | nil => exact .reported _ _
  | cons cpu cpus =>
    refine .ask (.call (.of_nonnegative rfl nonnegative)) fun answered => ?_
    cases answered with
    | ok done => exact .pure _
    | error cause => exact .fail within_live _ _

theorem guarded_resourceLimit (resource : Resource) : (p.resourceLimit pid resource).Guarded pid true := by
  refine .checked fun nonnegative => .ask (.call (.of_nonnegative rfl nonnegative)) fun answered => ?_
  match answered with
  | .ok (soft, hard) => exact .pure _
  | .error cause => exact .fail within_live _ _

/-- Every operation on Linux. -/
theorem guarded (o : Operation) :
    (o.query (platform p) pid).Guarded pid ((Unix.linux p).callOnZero? o).isSome := by
  cases o with
  | name | parent | status | processCpuTimes | threadCount | isZombie => exact guarded_processStat.map _
  | exe => exact guarded_exe
  | commandLine | environment => exact (guarded_blockBytes _).map _
  | workingDirectory => exact Procfs.guarded_processLink within_live _
  | userIds | groupIds | memoryMaps | ioCounters => exact guarded_processRecord _ _
  | terminal => exact guarded_terminal
  | createTime => exact guarded_createTime
  | memoryInfo => exact guarded_memoryInfo
  | memoryFullInfo => exact guarded_memoryFullInfo
  | threads => exact guarded_threads
  | contextSwitches => exact guarded_contextSwitches
  | openFiles => exact guarded_openFiles
  | descriptorCount => exact (Procfs.guarded_processEntries within_live _).map _
  | connections filter => exact guarded_connections filter
  | nice => exact Posix.guarded_getPriority within_live
  | setNice value => exact Posix.guarded_setPriority within_live value
  | cpuAffinity => exact guarded_cpuAffinity
  | setCpuAffinity cpus => exact guarded_setCpuAffinity cpus
  | resourceLimit resource => exact guarded_resourceLimit resource
  | sendSignal signal => exact Posix.guarded_sendSignal _ within_live signal
  | suspend | resume => exact Posix.guarded_sendSignal _ within_live _

end Linux

/-- Every operation that Cygwin offers. -/
theorem Cygwin.guarded {p : Linux.Probe} (o : Operation) (offered : (Unix.cygwin p).offers o = true) :
    (o.query (Cygwin.platform p) pid).Guarded pid ((Unix.cygwin p).callOnZero? o).isSome := by
  cases o with
  | name | parent | status | processCpuTimes | threadCount | isZombie => exact Linux.guarded_processStat.map _
  | exe | workingDirectory => exact Procfs.guarded_processLink Linux.within_live _
  | commandLine | environment => exact (Linux.guarded_blockBytes _).map _
  | userIds | groupIds => exact Linux.guarded_processRecord _ _
  | createTime => exact Linux.guarded_createTime
  | memoryInfo =>
    exact (Linux.guarded_processRecord _ _).bind fun _ _ => .bind Linux.guarded_processStat.within fun _ => .lift _
  | openFiles => exact Linux.guarded_openFiles
  | descriptorCount => exact (Procfs.guarded_processEntries Linux.within_live _).map _
  | nice => exact Posix.guarded_getPriority Linux.within_live
  | setNice value => exact Posix.guarded_setPriority Linux.within_live value
  | sendSignal signal => exact Posix.guarded_sendSignal _ Linux.within_live signal
  | suspend | resume => exact Posix.guarded_sendSignal _ Linux.within_live _
  | terminal | memoryFullInfo | memoryMaps | threads | contextSwitches | ioCounters | connections _ | cpuAffinity
  | setCpuAffinity _ | resourceLimit _ => cases offered

/-! ### SunOS and AIX -/

/-- Signals show which processes there are, a record which of them are zombies. -/
theorem Procfs.within_live (fs : Procfs) (layout : RecordLayout α) (name : String) (shows : α → Bool) :
    (⟨Posix.pidExists, fs.recordShows layout name shows⟩ : Liveness Program).Within (Aims pid zero) pid :=
  ⟨Posix.within_pidExists, within_recordShows _ _ _ _⟩

namespace SunOS

variable {p : Probe}

theorem within_live : p.live.Within (Aims pid zero) pid := Procfs.within_live _ _ _ _

theorem guarded_info : (p.info pid).Guarded pid zero := Procfs.guarded_processRecord within_live _ _

theorem guarded_usage : (p.usage pid).Guarded pid zero := Procfs.guarded_processRecord within_live _ _

theorem guarded_credentials : (p.credentials pid).Guarded pid zero := Procfs.guarded_processRecord within_live _ _

theorem guarded_commandLine : (p.commandLine pid).Guarded pid zero :=
  guarded_info.bind fun _ _ => Procfs.within_argumentsOr (Procfs.within_addressSpace within_live _ fun _ reads =>
    .classifyFor within_live (AddressSpace.within_argv reads _ _)) _

theorem guarded_environment : (p.environment pid).Guarded pid zero :=
  guarded_info.bind fun _ _ => Procfs.within_addressSpace within_live _ fun _ reads =>
    .bind (.classifyFor within_live (AddressSpace.within_envp reads _)) fun _ => .pure _

theorem guarded_terminal : (p.terminal pid).Guarded pid zero :=
  guarded_info.bind fun _ _ => .ite (.pure _) (.ofProgram (Posix.within_deviceIn _ _))

theorem guarded_memoryInfo : (p.memoryInfo pid).Guarded pid zero :=
  guarded_info.bind fun _ _ => .bind guarded_usage.within fun _ => .bind (.lift _) fun _ => .bind (.lift _) fun _ =>
    .bind (.lift _) fun _ => .pure _

theorem guarded_threads : (p.threads pid).Guarded pid zero := by
  refine (Procfs.guarded_processEntries within_live _).bind fun _ names => .bind (.mapM (fun name => ?_) _)
    fun _ => .pure _
  refine .ask (.file _) fun read => ?_
  cases read with
  | error cause => exact .pure _
  | ok bytes => exact .bind (.lift _) fun _ => .pure _

theorem guarded_openFiles : (p.openFiles pid).Guarded pid zero := by
  refine (Procfs.guarded_processEntries within_live _).bind fun _ names => .bind (.mapM (fun name => ?_) _)
    fun _ => .pure _
  unfold Probe.openFile
  split
  · exact .pure _
  refine .ask (.file _) fun told => ?_
  cases told with
  | error cause => exact .pure _
  | ok info => exact .ite (.pure _) (.bind (.answer? (.onPath _ _ (.file _))) fun _ => .pure _)

/-- Every operation that the system offers. -/
theorem guarded (o : Operation) (offered : (Unix.sunos p).offers o = true) :
    (o.query (platform p) pid).Guarded pid ((Unix.sunos p).callOnZero? o).isSome := by
  cases o with
  | name | parent | status | createTime | threadCount | isZombie => exact guarded_info.map _
  | exe | workingDirectory => exact Procfs.guarded_processLink within_live _
  | commandLine => exact guarded_commandLine
  | environment => exact guarded_environment
  | userIds | groupIds => exact guarded_credentials.map _
  | terminal => exact guarded_terminal
  | processCpuTimes | contextSwitches | ioCounters => exact guarded_usage.map _
  | memoryInfo => exact guarded_memoryInfo
  | threads => exact guarded_threads
  | openFiles => exact guarded_openFiles
  | descriptorCount => exact (Procfs.guarded_processEntries within_live _).map _
  | nice => exact Posix.guarded_getPriority within_live
  | setNice value => exact Posix.guarded_setPriority within_live value
  | sendSignal signal => exact Posix.guarded_sendSignal _ within_live signal
  | suspend | resume => exact Posix.guarded_sendSignal _ within_live _
  | memoryFullInfo | memoryMaps | connections _ | cpuAffinity | setCpuAffinity _ | resourceLimit _ => cases offered

end SunOS

namespace AIX

variable {p : Probe}

theorem within_live : p.live.Within (Aims pid zero) pid := Procfs.within_live _ _ _ _

theorem guarded_info : (p.info pid).Guarded pid zero := Procfs.guarded_processRecord within_live _ _

theorem guarded_runState : (p.runState pid).Guarded pid zero := Procfs.guarded_processRecord within_live _ _

theorem guarded_credentials : (p.credentials pid).Guarded pid zero := Procfs.guarded_processRecord within_live _ _

/-- The width of pointers is in another record, which is read first. -/
theorem within_addressSpace {f : AddressSpace Program → Query α}
    (rest : ∀ space : AddressSpace Program, (∀ address count, (space.read address count).Within (Aims pid zero)) →
      Query.Within (Aims pid zero) (f space)) :
    Query.Within (Aims pid zero) (p.addressSpace pid >>= f) := by
  rw [Probe.addressSpace, bind_assoc]
  exact .bind guarded_runState.within fun _ => Procfs.within_addressSpace within_live _ rest

theorem guarded_commandLine : (p.commandLine pid).Guarded pid zero :=
  guarded_info.bind fun _ _ => Procfs.within_argumentsOr (within_addressSpace fun _ reads =>
    .classifyFor within_live (AddressSpace.within_argv reads _ _)) _

theorem guarded_environment : (p.environment pid).Guarded pid zero :=
  guarded_info.bind fun _ _ => within_addressSpace fun _ reads =>
    .bind (.classifyFor within_live (AddressSpace.within_envp reads _)) fun _ => .pure _

theorem guarded_workingDirectory : (p.workingDirectory pid).Guarded pid zero :=
  Procfs.guarded_processLink within_live _

theorem guarded_terminal : (p.terminal pid).Guarded pid zero :=
  guarded_info.bind fun _ _ => .ite (.pure _) (.ofProgram (Posix.within_deviceIn _ _))

theorem guarded_memoryInfo : (p.memoryInfo pid).Guarded pid zero :=
  guarded_info.bind fun _ _ => .bind (.lift _) fun _ => .bind (.lift _) fun _ => .pure _

theorem within_isExecutable (path : String) : (Probe.isExecutable path).Within (Aims pid zero) := by
  refine .bind (.file _) fun told => ?_
  cases told with
  | ok info => exact .pure _
  | error cause => exact .pure _

theorem within_resolveExecutable (command : String) (directory searchPath : Option String) :
    (resolveExecutable command directory searchPath Probe.isExecutable).Within (Aims pid zero) := by
  have among (candidates : List String) : (firstAmong Probe.isExecutable candidates).Within (Aims pid zero) := by
    induction candidates with
    | nil => exact .pure _
    | cons path rest ih => exact .bind (within_isExecutable path) fun _ => .ite (.pure _) ih
  unfold resolveExecutable
  split
  · exact .pure _
  · exact .pure _
  · exact among _

theorem guarded_exe : (p.exe pid).Guarded pid zero := by
  refine guarded_commandLine.bind fun _ args => .bind (.answer? guarded_workingDirectory.within) fun directory =>
    .bind (.answer? guarded_environment.within) fun environment => .ask (within_resolveExecutable _ _ _) fun found => ?_
  cases found with
  | some path => exact .pure _
  | none => exact .report _

/-- Every operation that the system offers. -/
theorem guarded (o : Operation) (offered : (Unix.aix p).offers o = true) :
    (o.query (platform p) pid).Guarded pid ((Unix.aix p).callOnZero? o).isSome := by
  cases o with
  | name | parent | status | createTime | threadCount | isZombie => exact guarded_info.map _
  | exe => exact guarded_exe
  | commandLine => exact guarded_commandLine
  | environment => exact guarded_environment
  | workingDirectory => exact guarded_workingDirectory
  | userIds | groupIds => exact guarded_credentials.map _
  | terminal => exact guarded_terminal
  | processCpuTimes => exact guarded_runState.map _
  | memoryInfo => exact guarded_memoryInfo
  | descriptorCount => exact (Procfs.guarded_processEntries within_live _).map _
  | nice => exact Posix.guarded_getPriority within_live
  | setNice value => exact Posix.guarded_setPriority within_live value
  | sendSignal signal => exact Posix.guarded_sendSignal _ within_live signal
  | suspend | resume => exact Posix.guarded_sendSignal _ within_live _
  | memoryFullInfo | memoryMaps | threads | contextSwitches | ioCounters | openFiles | connections _ | cpuAffinity
  | setCpuAffinity _ | resourceLimit _ => cases offered

end AIX
end guards
end HostProbe
