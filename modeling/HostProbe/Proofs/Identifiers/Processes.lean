import HostProbe.Proofs.Identifiers.Procfs
import HostProbe.Proofs.Identifiers.Sysctl

/-! Operations act on the process that they are asked for: on systems of the Unix family their calls reach it alone,
save those that zero slips through to the caller, and on no system is anything asked about a negative identifier. -/
namespace HostProbe

section operations

variable {α β : Type} {pid : Pid}

/-! ### The Unix family -/

namespace Unix

/-- Every operation that a system offers is about the process alone, or refused. -/
theorem guarded (u : Unix) (o : Operation) (offered : u.offers o = true) :
    (o.query u.platform pid).Guarded pid (u.callOnZero? o).isSome := by
  cases u with
  | linux p => exact Linux.guarded o
  | cygwin p => exact Cygwin.guarded o offered
  | sunos p => exact SunOS.guarded o offered
  | aix p => exact AIX.guarded o offered
  | freebsd p => exact FreeBSD.guarded o offered
  | openbsd p => exact OpenBSD.guarded o offered
  | netbsd p => exact NetBSD.guarded o offered
  | macos p => exact MacOS.guarded o offered
  | haiku => exact Haiku.guarded o offered

theorem unsupported (u : Unix) (o : Operation) (missing : u.offers o = false) :
    ∃ what, o.query u.platform pid = Query.report (.unsupported what) := by
  cases u with
  | linux p => cases missing
  | cygwin p | sunos p | aix p | freebsd p | openbsd p | netbsd p | macos p | haiku =>
    cases o <;> first | exact ⟨_, rfl⟩ | cases missing

end Unix

/-! ### Zero -/

/-- The query asks this before anything else. -/
def Query.Begins (c : Call) (query : Query α) : Prop := ∃ next, query.run = .ask c next

theorem Query.Begins.bind {c : Call} {query : Query α} (begins : query.Begins c) (f : α → Query β) :
    (query >>= f).Begins c := by
  obtain ⟨next, asked⟩ := begins
  have run : (query >>= f).run = query.run >>= ExceptT.bindCont f := rfl
  rw [Query.Begins, run, asked]
  exact ⟨_, rfl⟩

namespace Linux

/-- The mask is asked for as soon as the policy on buffers lets it. -/
theorem begins_cpuAffinity {p : Probe} (attempts : 0 < p.context.buffers.maxAttempts)
    (room : 128 ≤ p.context.buffers.maxSize) : (p.cpuAffinity 0).Begins (.posix (.getAffinity 0 128)) := by
  obtain ⟨remaining, counted⟩ := Nat.exists_eq_add_one_of_ne_zero (Nat.ne_of_gt attempts)
  have fits : ¬ max 16 1 > p.context.buffers.maxSize / max 8 1 := show ¬ 16 > p.context.buffers.maxSize / 8 by omega
  have mask : (p.affinityMask 0).Begins (.posix (.getAffinity 0 128)) := by
    change Query.Begins _ (Growth.loop p.context.buffers _ 8 _ _ p.context.buffers.maxAttempts (max 16 1))
    rw [counted, Growth.loop_succ, if_neg fits]
    exact ⟨_, rfl⟩
  exact mask.bind _

theorem begins_callOnZero (p : Probe) {o : Operation} {c : PosixCall} (called : callOnZero? p o = some c) :
    (o.query (platform p) 0).Begins (.posix c) := by
  cases o with
  | cpuAffinity =>
    simp only [callOnZero?, Option.ite_none_right_eq_some] at called
    obtain ⟨⟨attempts, room⟩, ⟨⟩⟩ := called
    exact begins_cpuAffinity attempts room
  | setCpuAffinity cpus =>
    cases cpus with
    | nil => cases called
    | cons cpu cpus =>
      cases called
      exact ⟨_, rfl⟩
  | resourceLimit resource =>
    cases called
    exact ⟨_, rfl⟩
  | _ => cases called

end Linux

/-- What an operation on zero asks first is a call about the caller. -/
theorem Unix.begins_callOnZero (u : Unix) {o : Operation} {c : PosixCall} (called : u.callOnZero? o = some c) :
    (o.query u.platform 0).Begins (.posix c) := by
  cases o with
  | nice | setNice _ =>
    cases called
    cases u <;> exact ⟨_, rfl⟩
  | _ =>
    cases u with
    | linux p => exact Linux.begins_callOnZero p called
    | _ => cases called

/-- Handed zero, each of these calls is about the caller. -/
theorem Linux.reach_callOnZero {p : Linux.Probe} {o : Operation} {c : PosixCall}
    (called : Linux.callOnZero? p o = some c) : c.reach? = some .others := by
  unfold Linux.callOnZero? at called
  split at called
  · rw [Option.ite_none_right_eq_some] at called
    obtain ⟨-, ⟨⟩⟩ := called
    rfl
  · cases called
  · cases called
    rfl
  · cases called
    rfl
  · cases called

/-- That call is about others than the one process of its identifier. -/
theorem Unix.reach_callOnZero {u : Unix} {o : Operation} {c : PosixCall} (called : u.callOnZero? o = some c) :
    c.reach? = some .others := by
  unfold Unix.callOnZero? at called
  split at called
  · cases called
    rfl
  · cases called
    rfl
  · split at called
    · exact Linux.reach_callOnZero called
    · cases called

/-- Every call that an operation can come to is about the process asked for, or it was asked for zero and is one that
zero slips through; those begin with a call about the caller. Whether a process exists is never asked of others. -/
theorem Unix.operations_reach (u : Unix) (pid : Pid) :
    (∀ o : Operation, Query.Within (Aims pid (u.callOnZero? o).isSome) (o.query u.platform pid)) ∧
      Query.Within (Aims pid false) (u.platform.pidExists pid) ∧
      ∀ (o : Operation) (c : PosixCall), u.callOnZero? o = some c →
        c.reach? = some .others ∧ (o.query u.platform 0).Begins (.posix c) := by
  refine ⟨fun o => ?_, ?_, fun o c called => ⟨Unix.reach_callOnZero called, u.begins_callOnZero called⟩⟩
  · cases offered : u.offers o with
    | true => exact (u.guarded o offered).within
    | false =>
      obtain ⟨what, refused⟩ := u.unsupported o offered
      rw [refused]
      exact .report _
  · cases u with
    | linux p | cygwin p => exact .ofProgram Linux.within_live.pidExists
    | sunos p | aix p | freebsd p | openbsd p | netbsd p | macos p => exact .ofProgram Posix.within_pidExists
    | haiku => exact .ofProgram Haiku.within_pidExists

/-- The limits of the caller are what a question about those of zero begins with. -/
theorem operations_reach_limits :
    (Call.posix (.resourceLimit 0 7)).reach? = some .others ∧
      ((Linux.platform {}).resourceLimit 0 .openFiles).Begins (.posix (.resourceLimit 0 7)) :=
  (Unix.operations_reach (.linux {}) 0).2.2 (.resourceLimit .openFiles) (.resourceLimit 0 7) rfl

/-- Asked to rank zero, Linux ranks the caller. -/
theorem caller_ranked :
    ((Linux.platform {}).setNice 0 19).Begins (.posix (.setPriority Posix.byProcess 0 19)) ∧
      ¬ Query.Within (Aims 0 false) ((Linux.platform {}).setNice 0 19) := by
  refine ⟨⟨_, rfl⟩, fun within => ?_⟩
  rcases within.1 .others rfl with named | ⟨⟨⟩, -⟩
  cases named

/-! ### Windows -/

namespace Windows

variable {context : Context}

theorem refuses_openProcess (access : Nat) : (openProcess context pid access).Refuses pid := .checked _

theorem refuses_entry : (entry context pid).Refuses pid := .checked _

/-- Only a lack of rights sends to the list. -/
theorem refuses_orListed {query : Query α} (refuses : query.Refuses pid) (ofEntry : ProcessEntry → α) :
    (orListed context pid query ofEntry).Refuses pid := by
  intro negative
  rw [orListed, refuses negative]
  rfl

theorem refuses_parameters : (parameters context pid).Refuses pid := (refuses_openProcess _).bind _

theorem refuses_times : (times context pid).Refuses pid := (refuses_openProcess _).bind _

theorem refuses_createTime : (createTime context pid).Refuses pid := by
  intro negative
  have notIdle : pid ≠ 0 := Int.ne_of_lt negative
  have notKernel : pid ≠ kernelPid := Int.ne_of_lt (Int.lt_trans negative (by decide))
  have foreign : ¬ ((decide (pid = 0) || decide (pid = kernelPid)) = true) := by simp [notIdle, notKernel]
  rw [createTime, if_neg foreign]
  exact refuses_orListed (refuses_times.bind _) _ negative

theorem refuses_control (call : String) (command : Program NtStatus) :
    (control context pid call command).Refuses pid := (refuses_openProcess _).bind _

/-- The error of a value that is no priority class, which is refused whatever process it is for. -/
def notAClass (value : Int) : Error :=
  .os "SetPriorityClass" (.custom .invalidInput s!"0x{Integer.toHex (Word.ofInt 32 value)} is not a priority class")

theorem setPriorityClass_of_negative (negative : pid < 0) (value : Int) :
    setPriorityClass context pid value =
      Query.report (if priorityClasses.contains (Word.ofInt 32 value) then .notFound pid else notAClass value) := by
  rw [setPriorityClass]
  cases known : priorityClasses.contains (Word.ofInt 32 value) with
  | true => exact (refuses_openProcess _).bind _ negative
  | false => rfl

end Windows

/-! ### Negative identifiers -/

namespace System

/-- The error of an operation on an identifier that belongs to no process. -/
def refusal : System → Operation → Pid → Error
  | windows _, .setNice value, pid =>
    if Windows.priorityClasses.contains (Word.ofInt 32 value) then .notFound pid else Windows.notAClass value
  | _, _, pid => .notFound pid

/-- On Windows an operation on a negative identifier is refused without a question. -/
theorem refused_windows {context : Context} (negative : pid < 0) (o : Operation)
    (offered : (System.windows context).offers o = true) :
    o.query (Windows.platform context) pid = Query.report ((System.windows context).refusal o pid) := by
  cases o with
  | name | parent | status | threadCount | threads | contextSwitches | isZombie | connections _ =>
    exact Windows.refuses_entry.bind _ negative
  | exe | commandLine | memoryMaps | openFiles | nice | cpuAffinity | setCpuAffinity _ =>
    exact (Windows.refuses_openProcess _).bind _ negative
  | environment => exact (Windows.refuses_parameters.bind _).bind _ negative
  | workingDirectory => exact Windows.refuses_parameters.bind _ negative
  | createTime => exact Windows.refuses_createTime negative
  | processCpuTimes => exact Windows.refuses_orListed (Windows.refuses_times.bind _) _ negative
  | memoryInfo | ioCounters | descriptorCount =>
    exact Windows.refuses_orListed ((Windows.refuses_openProcess _).bind _) _ negative
  | memoryFullInfo => exact Query.Refuses.checked _ negative
  | setNice value => exact Windows.setPriorityClass_of_negative negative value
  | suspend | resume => exact Windows.refuses_control _ _ negative
  | sendSignal signal =>
    cases signal with
    | terminate | kill => exact (Windows.refuses_openProcess _).bind _ negative
    | stop | resume => exact Windows.refuses_control _ _ negative
    | interrupt | hangup | user1 | user2 => cases offered
  | userIds | groupIds | terminal | resourceLimit _ => cases offered

theorem refused (s : System) (negative : pid < 0) (o : Operation) (offered : s.offers o = true) :
    o.query s.platform pid = Query.report (s.refusal o pid) := by
  cases s with
  | unix u => exact (u.guarded o offered).refuses negative
  | windows context => exact refused_windows negative o offered
  | other => cases offered

/-- What a system does not offer is refused in the same way for every process. -/
theorem unsupported (s : System) (o : Operation) (missing : s.offers o = false) :
    ∃ what, o.query s.platform pid = Query.report (.unsupported what) := by
  cases s with
  | unix u => exact u.unsupported o missing
  | windows context =>
    cases o with
    | userIds | groupIds | terminal | resourceLimit _ => exact ⟨_, rfl⟩
    | sendSignal signal =>
      cases signal with
      | interrupt | hangup | user1 | user2 => exact ⟨_, rfl⟩
      | terminate | kill | stop | resume => cases missing
    | _ => cases missing
  | other => cases o <;> exact ⟨_, rfl⟩

/-- Every system that can tell whether a process exists knows without asking that none has a negative identifier. -/
theorem pidExists_of_negative (s : System) (negative : pid < 0) :
    (s.platform.pidExists pid).run = match s with
      | other => .done (.error (.report (.unsupported "pid_exists")))
      | _ => .done (.ok false) := by
  have lifted {found : Program Bool} (known : found = .done false) :
      (liftM found : Query Bool).run = .done (.ok false) := by
    rw [known]
    rfl
  have signalled : Posix.pidExists pid = .done false := if_pos negative
  cases s with
  | unix u =>
    cases u with
    | linux p | cygwin p =>
      have known : p.pidExists pid = .done false := by
        unfold Linux.Probe.pidExists
        cases p.evidence with
        | files => exact if_pos negative
        | signals => exact signalled
      exact lifted known
    | sunos p | aix p | freebsd p | openbsd p | netbsd p | macos p => exact lifted signalled
    | haiku => exact lifted (if_pos negative)
  | windows context => exact lifted (if_pos negative)
  | other => rfl

/-- Whatever is asked about a negative identifier or done to it fails before any question to the system: there is no
such process, or the system does not offer the operation, or the value is no priority class. -/
theorem negative_refused (s : System) (pid : Pid) (negative : pid < 0) :
    (∀ o : Operation, ∃ error, (o.query s.platform pid).run = .done (.error (.report error)) ∧
      if s.offers o then error = s.refusal o pid else ∃ what, error = .unsupported what) ∧
      (s.platform.pidExists pid).run = match s with
        | other => .done (.error (.report (.unsupported "pid_exists")))
        | _ => .done (.ok false) := by
  refine ⟨fun o => ?_, s.pidExists_of_negative negative⟩
  cases offered : s.offers o with
  | true =>
    refine ⟨s.refusal o pid, ?_, rfl⟩
    rw [s.refused negative o offered]
    rfl
  | false =>
    obtain ⟨what, unsupported⟩ := s.unsupported o offered
    refine ⟨.unsupported what, ?_, ⟨what, rfl⟩⟩
    rw [unsupported]
    rfl

/-- The kernel would read it as every process that may be signalled. -/
theorem negative_refused_kill : (-1 : Pid) < 0 ∧
    ((Linux.platform {}).sendSignal (-1) .kill).run = .done (.error (.report (.notFound (-1)))) := by
  refine ⟨by decide, ?_⟩
  obtain ⟨error, ran, rfl⟩ := (System.negative_refused (.unix (.linux {})) (-1) (by decide)).1 (.sendSignal .kill)
  exact ran

end System
end operations
end HostProbe
