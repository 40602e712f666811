import HostProbe.Proofs.Identifiers.Operations

/-! Guards of the operations that read tables of the kernel: on FreeBSD, OpenBSD and NetBSD, which share most of them,
on macOS and on Haiku. -/
namespace HostProbe

section guards

variable {α : Type} {pid : Pid} {zero : Bool}

/-! ### Tables of the kernel -/

namespace BSD

namespace Sysctl

theorem within_value (mib : Mib) (call : String) (room : Nat) :
    Query.Within (Aims pid zero) (value mib call room) := by
  refine .ask (.sysctl _) fun replied => ?_
  cases replied with
  | ok reply => exact .pure _
  | error cause => exact .report _

theorem within_intValue (mib : Mib) (call : String) (room : Nat) :
    Query.Within (Aims pid zero) (intValue mib call room) := .bind (within_value _ _ _) fun _ => .pure _

theorem within_size (mib : Mib) (call : String) : Query.Within (Aims pid zero) (size mib call) := by
  refine .ask (.sysctl _) fun told => ?_
  cases told with
  | ok size => exact .pure _
  | error cause => exact .report _

theorem within_attempt (mib : Mib) (call : String) (room : Nat) :
    Query.Within (Aims pid zero) (attempt mib call room) := by
  refine .ask (.sysctl _) fun replied => ?_
  cases replied with
  | ok reply => exact .pure _
  | error cause => exact .ite (.pure _) (.report _)

theorem within_readFrom (policy : BufferPolicy) (mib : Mib) (call : String) (initial : Nat) :
    Query.Within (Aims pid zero) (readFrom policy mib call initial) := .untilDone (within_attempt mib call)

theorem within_readBytes (policy : BufferPolicy) (mib : Mib) (call : String) :
    Query.Within (Aims pid zero) (readBytes policy mib call) :=
  .bind (within_size _ _) fun _ => .bind (within_readFrom _ _ _ _) fun _ => .pure _

theorem within_readTable (policy : BufferPolicy) (layout : RecordLayout α) (table : Mib) (call : String) :
    Query.Within (Aims pid zero) (readTable policy layout table call) :=
  .bind (within_size _ _) fun _ => .bind (.lift _) fun _ => .bind (.untilDone fun _ => within_attempt _ _ _)
    fun _ => .pure _

theorem within_resolve (name : String) : Query.Within (Aims pid zero) (resolve name) := by
  refine .ask (.sysctl _) fun resolved => ?_
  cases resolved with
  | ok done => exact .pure _
  | error cause => exact .ite (.reported _ _) (.report _)

end Sysctl

theorem within_processRecord (size : Nat) (read : Bytes → Outcome α) (mib : Mib) (id : Pid) (call : String) :
    Query.Within (Aims pid zero) (processRecord size read mib id call) :=
  .bind (Sysctl.within_value _ _ _) fun _ => .ite (.reported _ _) (.lift _)

theorem within_livenessBy {info : Pid → Query ProcessInfo} (within : Query.Within (Aims pid zero) (info pid)) :
    (livenessBy info).Within (Aims pid zero) pid where
  pidExists := Posix.within_pidExists
  isZombie := by
    refine .bind within fun ended => ?_
    cases ended with
    | ok info => exact .pure _
    | error fault => exact .pure _

theorem within_terminalName (number : Nat) : (terminalName number).Within (Aims pid zero) := by
  refine .bind (.posix rfl) fun name => ?_
  cases name with
  | none => exact .pure _
  | some name => exact .pure _

/-- A table about a process that is asked for once its identifier is checked. -/
theorem guarded_classified {live : Liveness Program} (within : live.Within (Aims pid zero) pid) {table : Query α}
    (first : Query.Within (Aims pid zero) table) :
    (Query.lift (checkPid pid) >>= fun _ => live.classifyFor pid table).Guarded pid zero :=
  .checked fun _ => .classifyFor within first

/-! ### What the family shares -/

/-- The queries about a process in which systems of the family differ are guarded, all but the record, which is not yet
checked. -/
structure Dialect.Guarded (d : Dialect) (pid : Pid) (zero : Bool) : Prop where
  info : Query.Within (Aims pid zero) (d.info pid)
  commandLine : (d.commandLine pid).Guarded pid zero
  environment : (d.environment pid).Guarded pid zero
  workingDirectory : (d.workingDirectory pid).Guarded pid zero
  threads : (d.threads pid).Guarded pid zero
  descriptorCount : (d.descriptorCount pid).Guarded pid zero
  connections : ∀ filter, (d.connections pid filter).Guarded pid zero

/-- Every operation that the whole family offers, which is what OpenBSD does. -/
theorem guarded {d : Dialect} (guards : ∀ zero, d.Guarded pid zero) {p : Probe} (o : Operation)
    (offered : (Unix.openbsd p).offers o = true) :
    (o.query (platform d) pid).Guarded pid ((Unix.openbsd p).callOnZero? o).isSome := by
  have live {zero : Bool} : (livenessBy d.info).Within (Aims pid zero) pid := within_livenessBy (guards zero).info
  have info {zero : Bool} : (Query.lift (checkPid pid) >>= fun _ =>
      (livenessBy d.info).classifyFor pid (d.info pid)).Guarded pid zero := guarded_classified live (guards zero).info
  cases o with
  | name | parent | status | userIds | groupIds | createTime | processCpuTimes | memoryInfo | contextSwitches
  | ioCounters | isZombie => exact info.map _
  | commandLine => exact (guards _).commandLine
  | environment => exact (guards _).environment.map _
  | workingDirectory => exact (guards _).workingDirectory
  | terminal =>
    refine info.bind fun _ i => ?_
    cases i.terminal with
    | none => exact .pure _
    | some number => exact .ofProgram (within_terminalName number)
  | threadCount =>
    refine info.bind fun _ i => ?_
    cases i.threads with
    | none => exact .bind (guards _).threads.within fun _ => .pure _
    | some count => exact .pure _
  | threads => exact (guards _).threads
  | descriptorCount => exact (guards _).descriptorCount
  | connections filter => exact .checked fun _ => ((guards _).connections filter).within
  | nice => exact Posix.guarded_getPriority live
  | setNice value => exact Posix.guarded_setPriority live value
  | sendSignal signal => exact Posix.guarded_sendSignal _ live signal
  | suspend | resume => exact Posix.guarded_sendSignal _ live _
  | exe | memoryFullInfo | memoryMaps | openFiles | cpuAffinity | setCpuAffinity _ | resourceLimit _ => cases offered

end BSD

/-! ### The systems of the family -/

namespace FreeBSD

open BSD

variable {p : Probe}

theorem within_info : Query.Within (Aims pid zero) (info p pid) := within_processRecord _ _ _ _ _

theorem within_live : (live p).Within (Aims pid zero) pid := within_livenessBy within_info

theorem guarded_node (field : Int) (call : String) : (node p pid field call).Guarded pid zero :=
  guarded_classified within_live (Sysctl.within_readBytes _ _ _)

theorem guarded_exe : (exe p pid).Guarded pid zero where
  within := by
    refine .bind (.attempt (guarded_node _ _).within) fun attempted => ?_
    match attempted with
    | .ok bytes => exact .pure _
    | .error (.processOs ..) => exact .ite (.pure _) (.report _)
    | .error (.notFound _) | .error (.noSuchDevice _) | .error (.permissionDenied ..) | .error (.zombieProcess _)
    | .error (.unsupported _) | .error (.os ..) | .error (.outOfMemory _) | .error (.parse ..) => exact .report _
  refuses := by
    intro negative
    -- The failed attempt is looked into, and that there is no such process is passed on.
    have refused : node p pid 12 "sysctl(kern.proc.pathname)" = Query.report (.notFound pid) :=
      Query.Refuses.checked _ negative
    rw [exe, refused]
    rfl

theorem within_states (filter : ConnectionFilter) : Query.Within (Aims pid zero) (states p filter) :=
  .ite (.pure _) (.bind (Sysctl.within_resolve _) fun _ => .bind (Sysctl.within_readBytes _ _ _) fun _ => .lift _)

theorem guarded_dialect (zero : Bool) : (dialect p).Guarded pid zero where
  info := within_info
  commandLine := (guarded_node _ _).map _
  environment := (guarded_node _ _).map _
  workingDirectory := (guarded_node _ _).map _
  threads := (guarded_node _ _).map _
  descriptorCount := (guarded_node _ _).map _
  connections filter := (guarded_node _ _).bind fun _ _ => .bind (within_states filter) fun _ => .pure _

/-- Sets of processors are selected by process, and zero is then a process as well. -/
theorem guarded_cpuAffinity : (cpuAffinity p pid).Guarded pid zero := by
  refine .checked fun nonnegative => ?_
  have reached : (Call.posix (.getCpuSet setLevel setOwner pid (setWords * 8))).reach? = some (.process pid) :=
    congrArg some (if_pos ⟨rfl, rfl, nonnegative⟩)
  refine .ask (.call (.of_process reached)) fun answered => ?_
  cases answered with
  | ok words => exact .pure _
  | error cause => exact .fail within_live _ _

theorem guarded_setCpuAffinity (cpus : List Nat) : (setCpuAffinity p pid cpus).Guarded pid zero := by
  refine .checked fun nonnegative => ?_
  dsimp only
  split
  · exact .report _
  · have reached (words : List Nat) : (Call.posix (.setCpuSet setLevel setOwner pid words)).reach? =
        some (.process pid) := congrArg some (if_pos ⟨rfl, rfl, nonnegative⟩)
    refine .ask (.call (.of_process (reached _))) fun answered => ?_
    cases answered with
    | ok done => exact .pure _
    | error cause => exact .fail within_live _ _

theorem guarded_resourceLimit (resource : Resource) : (resourceLimit p pid resource).Guarded pid zero := by
  refine .checked fun _ => ?_
  split
  · exact .report _
  · exact .bind (.classifyFor within_live (Sysctl.within_value _ _ _)) fun _ => .pure _

/-- Every operation that the system offers. -/
theorem guarded (o : Operation) (offered : (Unix.freebsd p).offers o = true) :
    (o.query (platform p) pid).Guarded pid ((Unix.freebsd p).callOnZero? o).isSome := by
  have shared : (Unix.openbsd p).offers o = true →
      (o.query (BSD.platform (dialect p)) pid).Guarded pid ((Unix.openbsd p).callOnZero? o).isSome :=
    BSD.guarded guarded_dialect o
  cases o with
  | exe => exact guarded_exe
  | openFiles => exact (guarded_node _ _).map _
  | cpuAffinity => exact guarded_cpuAffinity
  | setCpuAffinity cpus => exact guarded_setCpuAffinity cpus
  | resourceLimit resource => exact guarded_resourceLimit resource
  | memoryFullInfo | memoryMaps => cases offered
  | _ => exact shared rfl

end FreeBSD

namespace OpenBSD

open BSD

variable {p : Probe}

theorem within_info : Query.Within (Aims pid zero) (info p pid) := within_processRecord _ _ _ _ _

theorem within_live : (live p).Within (Aims pid zero) pid := within_livenessBy within_info

theorem guarded_strings (which : Int) (call : String) : (strings p pid which call).Guarded pid zero :=
  .checked fun _ => .bind (Sysctl.within_intValue _ _ _) fun _ =>
    .bind (.classifyFor within_live (Sysctl.within_readFrom _ _ _ _)) fun _ => .pure _

theorem guarded_files : (files p pid).Guarded pid zero :=
  guarded_classified within_live (Sysctl.within_readTable _ _ _ _)

theorem guarded_dialect (zero : Bool) : (dialect p).Guarded pid zero where
  info := within_info
  commandLine := guarded_strings _ _
  environment := guarded_strings _ _
  workingDirectory := .checked fun _ => .bind (.classifyFor within_live (Sysctl.within_value _ _ _)) fun _ => .pure _
  threads := .checked fun _ => .bind (.classifyFor within_live (Sysctl.within_readTable _ _ _ _)) fun _ => .pure _
  descriptorCount := guarded_files.map _
  connections _ := guarded_files.map _

/-- Every operation that the system offers. -/
theorem guarded (o : Operation) (offered : (Unix.openbsd p).offers o = true) :
    (o.query (platform p) pid).Guarded pid ((Unix.openbsd p).callOnZero? o).isSome :=
  BSD.guarded guarded_dialect o offered

end OpenBSD

namespace NetBSD

open BSD

variable {p : Probe}

theorem within_info : Query.Within (Aims pid zero) (info p pid) := within_processRecord _ _ _ _ _

theorem within_live : (live p).Within (Aims pid zero) pid := within_livenessBy within_info

theorem guarded_arguments (which : Int) (call : String) : (arguments p pid which call).Guarded pid zero :=
  guarded_classified within_live (Sysctl.within_readBytes _ _ _)

theorem guarded_files : (files p pid).Guarded pid zero :=
  guarded_classified within_live (Sysctl.within_readTable _ _ _ _)

theorem within_sockets (filter : ConnectionFilter) : Query.Within (Aims pid zero) (sockets p filter) := by
  refine .bind (.mapM (fun table => ?_) _) fun _ => .pure _
  exact .ite (.pure _) (.bind (Sysctl.within_resolve _) fun _ => .bind (Sysctl.within_readTable _ _ _ _)
    fun _ => .pure _)

theorem guarded_dialect (zero : Bool) : (dialect p).Guarded pid zero where
  info := within_info
  commandLine := (guarded_arguments _ _).map _
  environment := (guarded_arguments _ _).map _
  workingDirectory := (guarded_arguments _ _).map _
  threads := guarded_classified within_live (Sysctl.within_readTable _ _ _ _)
  descriptorCount := guarded_files.map _
  connections filter := guarded_files.bind fun _ _ => .bind (within_sockets filter) fun _ => .pure _

/-- Every operation that the system offers. -/
theorem guarded (o : Operation) (offered : (Unix.netbsd p).offers o = true) :
    (o.query (platform p) pid).Guarded pid ((Unix.netbsd p).callOnZero? o).isSome := by
  have shared : (Unix.openbsd p).offers o = true →
      (o.query (BSD.platform (dialect p)) pid).Guarded pid ((Unix.openbsd p).callOnZero? o).isSome :=
    BSD.guarded guarded_dialect o
  cases o with
  | exe => exact (guarded_arguments _ _).map _
  | memoryFullInfo | memoryMaps | openFiles | cpuAffinity | setCpuAffinity _ | resourceLimit _ => cases offered
  | _ => exact shared rfl

end NetBSD

/-! ### macOS -/

namespace Footprint

/-- The walk over regions asks about its own task only. -/
theorem within_privatePagesFrom (architecture : Architecture) (id : Option Pid) (questions address counted : Nat) :
    Query.Within (Aims pid zero) (privatePagesFrom architecture id questions address counted) := by
  induction questions generalizing address counted with
  | zero => exact .pure _
  | succ questions ih =>
    rw [privatePagesFrom]
    refine .ask (.mach _) fun found => ?_
    cases found with
    | error result => exact .ite (.pure _) (.throw _)
    | ok region =>
      dsimp only
      split
      · exact .throw _
      · exact ih _ _

theorem RegionQuerier.within_footprint (q : RegionQuerier) : Query.Within (Aims pid zero) q.footprint := by
  have resident : Query.Within (Aims pid zero) q.resident := by
    unfold RegionQuerier.resident
    split
    · refine .ask (.mach _) fun told => ?_
      cases told with
      | ok size => exact .pure _
      | error cause => exact .throw _
    · refine .ask (.mach _) fun told => ?_
      cases told with
      | error cause => exact .throw _
      | ok bytes =>
        dsimp only
        split
        · exact .pure _
        · exact .throw _
  have openTask : Query.Within (Aims pid zero) q.openTask := by
    unfold RegionQuerier.openTask
    split
    · exact .pure _
    · refine .ask (.mach _) fun granted => ?_
      cases granted with
      | ok done => exact .pure _
      | error result => exact .throw _
  refine .bind resident fun rss => .bind openTask fun task => .bind (within_privatePagesFrom _ _ _ _ _) fun pages => ?_
  split
  · exact .throw _
  · split
    · exact .pure _
    · exact .throw _

end Footprint

namespace MacOS

open BSD

variable {p : Probe}

theorem within_entry : Query.Within (Aims pid zero) (entry pid) := within_processRecord _ _ _ _ _

theorem within_live : live.Within (Aims pid zero) pid where
  pidExists := Posix.within_pidExists
  isZombie := by
    refine .bind within_entry fun ended => ?_
    cases ended with
    | ok entry => exact .pure _
    | error fault => exact .pure _

theorem guarded_processEntry : (processEntry pid).Guarded pid zero := guarded_classified within_live within_entry

theorem within_wholeRecord (layout : RecordLayout α) (call : String) (answer : Except IoError Bytes) :
    Query.Within (Aims pid zero) (wholeRecord layout pid call answer) := by
  cases answer with
  | error cause => exact .fail within_live _ _
  | ok bytes =>
    simp only [wholeRecord]
    split
    · exact .pure _
    · exact .fail within_live _ _

theorem guarded_facet (layout : RecordLayout α) (f : ProcessFacet) (call : String) :
    (facet layout pid f call).Guarded pid zero :=
  .checked fun _ => .ask (.mach _) fun _ => within_wholeRecord _ _ _

theorem guarded_identity : (identity pid).Guarded pid zero := guarded_facet _ _ _

theorem guarded_task : (task pid).Guarded pid zero := guarded_facet _ _ _

theorem guarded_name : (name pid).Guarded pid zero := by
  refine .checked fun _ => .ask (.mach _) fun told => ?_
  cases told with
  | ok bytes => exact .pure _
  | error cause => exact .bind guarded_processEntry.within fun _ => .pure _

theorem guarded_exe : (exe pid).Guarded pid zero := by
  refine .checked fun _ => .ask (.mach _) fun told => ?_
  cases told with
  | ok bytes => exact .pure _
  | error cause => exact .fail within_live _ _

theorem guarded_terminal : (terminal pid).Guarded pid zero :=
  guarded_identity.bind fun _ _ => .ite (.pure _) (.ofProgram (within_terminalName _))

theorem guarded_arguments : (arguments pid).Guarded pid zero := by
  refine .checked fun _ => .bind (Sysctl.within_intValue _ _ _) fun longest => .ask (.sysctl _) fun replied => ?_
  cases replied with
  | error cause =>
    have failed : Query.Within (Aims pid zero)
        (live.fail pid "sysctl(kern.procargs2)" cause : Query Arguments) := .fail within_live _ _
    exact .ite (.ask within_live.pidExists fun _ => .ite (.ask within_live.isZombie fun _ =>
      .ite (.reported _ _) failed) failed) failed
  | ok reply => exact .ite (.pure _) (.classifyFor within_live (.lift _))

theorem guarded_facetList (layout : RecordLayout α) (f : ProcessFacet) (initial : Nat) (call : String) :
    (facetList p layout pid f initial call).Guarded pid zero := by
  refine .checked fun _ => .untilDone fun count => .ask (.mach _) fun told => ?_
  cases told with
  | error cause => exact .fail within_live _ _
  | ok bytes => exact .pure _

theorem guarded_descriptors : (descriptors p pid).Guarded pid zero := by
  refine .checked fun _ => .ask (.mach _) fun told => ?_
  cases told with
  | error cause => exact .fail within_live _ _
  | ok size => exact (guarded_facetList _ _ _ _).within

theorem within_descriptor? (layout : RecordLayout α) (fd : Int) (f : DescriptorFacet) (call : String) :
    Query.Within (Aims pid zero) (descriptor? layout pid fd f call) := by
  refine .ask (.mach _) fun answer => ?_
  have read (answer : Except IoError Bytes) : Query.Within (Aims pid zero) (do
      return some (← wholeRecord layout pid call answer)) := .bind (within_wholeRecord _ _ _) fun _ => .pure _
  match answer with
  | .error (.number number) => exact .ite (.pure _) (.fail within_live _ _)
  | .error (.bare kind) => exact read _
  | .error (.custom kind text) => exact read _
  | .ok bytes => exact read _

theorem guarded_openFiles : (openFiles p pid).Guarded pid zero :=
  guarded_descriptors.bind fun _ _ => .bind (.mapM (fun _ => .bind (within_descriptor? _ _ _ _) fun _ => .pure _) _)
    fun _ => .pure _

theorem within_connections (filter : ConnectionFilter) : Query.Within (Aims pid zero) (connections p pid filter) :=
  .bind guarded_descriptors.within fun _ => .bind (.mapM (fun _ => .bind (within_descriptor? _ _ _ _)
    fun _ => .pure _) _) fun _ => .pure _

theorem guarded_threads : (threads p pid).Guarded pid zero := by
  have times (id : Nat) : Query.Within (Aims pid zero) (thread? pid id) := by
    refine .bind (.attempt (guarded_facet _ _ _).within) fun attempted => ?_
    split
    · exact .pure _
    · exact .pure _
    · exact .report _
  exact guarded_task.bind fun _ _ => .bind (guarded_facetList _ _ _ _).within fun _ => .bind (.mapM times _)
    fun _ => .pure _

theorem guarded_ioCounters : (ioCounters pid).Guarded pid zero := by
  refine .checked fun _ => .ask (.mach _) fun told => ?_
  cases told with
  | ok bytes => exact .pure _
  | error cause => exact .fail within_live _ _

theorem guarded_memoryFullInfo : (memoryFullInfo pid).Guarded pid zero := by
  refine .checked fun _ => .ask (.bind (.posix rfl) fun _ => .pure _) fun querier =>
    .ask (Footprint.RegionQuerier.within_footprint querier) fun found => ?_
  split
  · exact .lift _
  · exact .fail within_live _ _
  · exact .throw _

/-- Every operation that the system offers. -/
theorem guarded (o : Operation) (offered : (Unix.macos p).offers o = true) :
    (o.query (platform p) pid).Guarded pid ((Unix.macos p).callOnZero? o).isSome := by
  cases o with
  | name => exact guarded_name
  | exe => exact guarded_exe
  | commandLine | environment => exact guarded_arguments.map _
  | workingDirectory => exact guarded_facet _ _ _
  | parent | status | isZombie => exact guarded_processEntry.map _
  | userIds | groupIds | createTime => exact guarded_identity.map _
  | terminal => exact guarded_terminal
  | processCpuTimes | memoryInfo | threadCount | contextSwitches => exact guarded_task.map _
  | memoryFullInfo => exact guarded_memoryFullInfo
  | threads => exact guarded_threads
  | ioCounters => exact guarded_ioCounters
  | openFiles => exact guarded_openFiles
  | descriptorCount => exact guarded_descriptors.map _
  | connections filter => exact .checked fun _ => within_connections filter
  | nice => exact Posix.guarded_getPriority within_live
  | setNice value => exact Posix.guarded_setPriority within_live value
  | sendSignal signal => exact Posix.guarded_sendSignal _ within_live signal
  | suspend | resume => exact Posix.guarded_sendSignal _ within_live _
  | memoryMaps | cpuAffinity | setCpuAffinity _ | resourceLimit _ => cases offered

end MacOS

/-! ### Haiku -/

namespace Haiku

theorem within_pidExists : (Haiku.pidExists pid).Within (Aims pid zero) := .ite (.pure _) (.team _)

theorem within_live : live.Within (Aims pid zero) pid := ⟨within_pidExists, .pure _⟩

theorem guarded_team : (team pid).Guarded pid zero := by
  refine .checked fun _ => .ask (.team _) fun told => ?_
  cases told with
  | ok summary => exact .pure _
  | error status => exact .report _

theorem within_teamFailure (call : String) (status : TeamStatus) :
    Query.Within (Aims pid zero) (teamFailure pid call status : Query α) :=
  .ask within_pidExists fun _ => .ite (.reported _ _) (.report _)

theorem guarded_usage (children : Bool) : (usage pid children).Guarded pid zero := by
  refine .checked fun _ => .ask (.team _) fun told => ?_
  cases told with
  | ok times => exact .pure _
  | error status => exact within_teamFailure _ _

theorem guarded_threads : (threads pid).Guarded pid zero := guarded_team.bind fun _ _ => .ask (.team _) fun _ => .pure _

theorem guarded_areas : (areas pid).Guarded pid zero := guarded_team.bind fun _ _ => .ask (.team _) fun _ => .pure _

theorem guarded_exe : (exe pid).Guarded pid zero := by
  refine guarded_team.bind fun _ _ => .ask (.team _) fun images => ?_
  split
  · exact .pure _
  · exact within_teamFailure _ _

theorem guarded_createTime : (createTime pid).Guarded pid zero := by
  refine guarded_team.bind fun _ started => .bind (.ask (.team _) fun told => ?_) fun _ => .pure _
  cases told with
  | ok summary => exact .pure _
  | error status => exact .report _

theorem guarded_memoryInfo : (memoryInfo pid).Guarded pid zero :=
  guarded_areas.bind fun _ _ => .bind (.foldlM (fun _ _ => .lift _) _ _) fun _ =>
    .bind (.foldlM (fun _ _ => .lift _) _ _) fun _ => .pure _

/-- Every operation that the system offers. -/
theorem guarded (o : Operation) (offered : Unix.haiku.offers o = true) :
    (o.query platform pid).Guarded pid (Unix.haiku.callOnZero? o).isSome := by
  cases o with
  | name => exact guarded_exe.map _
  | exe => exact guarded_exe
  | parent | userIds | groupIds | threadCount | isZombie => exact guarded_team.map _
  | status | threads => exact guarded_threads.map _
  | createTime => exact guarded_createTime
  | processCpuTimes => exact (guarded_usage _).bind fun _ _ => .bind (guarded_usage _).within fun _ => .pure _
  | memoryInfo => exact guarded_memoryInfo
  | nice => exact Posix.guarded_getPriority within_live
  | setNice value => exact Posix.guarded_setPriority within_live value
  | sendSignal signal => exact Posix.guarded_sendSignal _ within_live signal
  | suspend | resume => exact Posix.guarded_sendSignal _ within_live _
  | commandLine | environment | workingDirectory | terminal | memoryFullInfo | memoryMaps | contextSwitches
  | ioCounters | openFiles | descriptorCount | connections _ | cpuAffinity | setCpuAffinity _ | resourceLimit _ =>
    cases offered

end Haiku
end guards
end HostProbe
