import HostProbe.Linux.Control
import HostProbe.Proofs.Affinity.Masks
import HostProbe.Proofs.Growth
import HostProbe.Proofs.Query
import HostProbe.Proofs.Windows.MemoryMaps

/-! Processors of a process, set and read. The kernel may remember what it was asked; what it is handed is read off the
questions of the query. -/
namespace HostProbe

open Affinity (Has Carries sorted cpusOfMask maskOfCpus initialWords)

variable {α β σ : Type} {host : (c : Call) → StateM σ c.Answer} {state : σ} {pid : Pid} {cpus : List Nat}

/-! ### Calls that set processors -/

def Call.setsProcessors : Call → Bool
  | .posix (.setAffinity ..) | .posix (.setCpuSet ..) | .windows (.setAffinityMask ..) => true
  | _ => false

namespace Query

/-- The calls of a query that set processors, on a host with a memory and in order. -/
def settings (host : (c : Call) → StateM σ c.Answer) (query : Query α) (state : σ) : List Call :=
  (query.run.askedOf host state).filter Call.setsProcessors

/-- The query sets no processors, whatever it is answered. -/
def Unset (query : Query α) : Prop := Within (·.setsProcessors = false) query

theorem Unset.settings {query : Query α} (unset : query.Unset) : query.settings host state = [] := by
  refine List.filter_eq_nil_iff.mpr fun c asked set => ?_
  rw [Program.Within.askedOf unset state c asked] at set
  exact nomatch set

theorem settings_bind (query : Query α) (f : α → Query β) : (query >>= f).settings host state =
    query.settings host state ++ match query.ran host state with
      | (.ok a, after) => (f a).settings host after
      | (.error _, _) => [] := by
  rw [settings, askedOf_bind, List.filter_append]
  refine congrArg (query.settings host state ++ ·) ?_
  cases query.ran host state with
  | mk result after => cases result <;> rfl

/-- A call that sets processors is the only one if nothing behind it is. -/
theorem settings_call {c : Call} {f : c.Answer → Query α} (sets : c.setsProcessors = true)
    (unset : ∀ answer, (f answer).Unset) :
    ((liftM (Program.call c) : Query c.Answer) >>= f).settings host state = [c] := by
  have asked : ((liftM (Program.call c) : Query c.Answer) >>= f).run.askedOf host state =
      c :: (f ((host c).run state).1).run.askedOf host ((host c).run state).2 := rfl
  rw [settings, asked, List.filter_cons_of_pos sets]
  exact congrArg (c :: ·) (unset _).settings

end Query

/-! ### Linux -/

namespace Linux.Probe

variable (p : Probe)

/-- Setting processors hands the kernel one mask, which is made of them. -/
theorem settings_setCpuAffinity (nonnegative : 0 ≤ pid) (nonempty : cpus ≠ []) :
    (p.setCpuAffinity pid cpus).settings host state = [.posix (.setAffinity pid (maskOfCpus cpus))] := by
  have live : p.live.Within (·.setsProcessors = false) pid := live_within (fun _ => rfl) fun _ => rfl
  rw [setCpuAffinity, checkPid_of_nonnegative nonnegative]
  cases cpus with
  | nil => exact absurd rfl nonempty
  | cons cpu cpus =>
    refine Query.settings_call rfl fun answered => ?_
    cases answered with
    | ok done => exact .pure _
    | error cause => exact .fail live _ _

theorem setCpuAffinity_nil (nonnegative : 0 ≤ pid) :
    p.setCpuAffinity pid [] = Query.report (.os "sched_setaffinity" (.custom .invalidInput "empty CPU set")) := by
  rw [setCpuAffinity, checkPid_of_nonnegative nonnegative]
  rfl

end Linux.Probe

/-! ### Reading on Linux -/

namespace Growth

/-- Doubled often enough, a buffer that the policy and the allocator allow holds what is asked for. -/
theorem loop_doubled {policy : BufferPolicy} {allocator : Allocator} {elementSize needed : Nat} {call : String}
    {attempt : Nat → Query (Attempt β)} {result : Nat → β}
    (answers : ∀ length state, ∃ after, (attempt length).ran host state =
      (.ok (if needed ≤ length then .done (result length) else .tooSmall none), after))
    (doublings : Nat) : ∀ {remaining length : Nat} (state : σ), doublings < remaining →
    needed ≤ length * 2 ^ doublings → length * 2 ^ doublings ≤ capacity policy elementSize →
    (∀ j ≤ doublings, allocate allocator elementSize (length * 2 ^ j) = .ok ()) →
    length * 2 ^ doublings ≤ Word.top →
    ∃ j ≤ doublings, needed ≤ length * 2 ^ j ∧ ∃ after,
      Query.ran host (loop policy allocator elementSize call attempt remaining length) state =
        (.ok (result (length * 2 ^ j)), after) := by
  have first {length : Nat} (remaining : Nat) (state : σ) (within : length ≤ capacity policy elementSize)
      (granted : allocate allocator elementSize length = .ok ()) : ∃ after,
      Query.ran host (loop policy allocator elementSize call attempt (remaining + 1) length) state =
        if needed ≤ length then (.ok (result length), after)
        else Query.ran host (loop policy allocator elementSize call attempt remaining (next length none)) after := by
    have allowed : ¬length > policy.maxSize / max elementSize 1 := Nat.not_lt.mpr within
    obtain ⟨after, told⟩ := answers length state
    refine ⟨after, ?_⟩
    rw [loop_succ, if_neg allowed, granted]
    change Query.ran host (attempt length >>= fun attempted => _) state = _
    rw [Query.ran_bind, told]
    dsimp only
    by_cases fits : needed ≤ length
    · rw [if_pos fits, if_pos fits]
      rfl
    · rw [if_neg fits, if_neg fits]
  induction doublings with
  | zero =>
    intro remaining length state attempts enough within granted _
    rw [Nat.pow_zero, Nat.mul_one] at enough within
    obtain ⟨remaining, rfl⟩ := Nat.exists_eq_add_one.mpr attempts
    have given := granted 0 (Nat.le_refl 0)
    rw [Nat.pow_zero, Nat.mul_one] at given
    obtain ⟨after, ran⟩ := first remaining state within given
    rw [if_pos enough] at ran
    refine ⟨0, Nat.le_refl 0, ?_⟩
    rw [Nat.pow_zero, Nat.mul_one]
    exact ⟨enough, after, ran⟩
  | succ doublings ih =>
    intro remaining length state attempts enough within granted small
    obtain ⟨remaining, rfl⟩ := Nat.exists_eq_add_one.mpr (Nat.lt_of_le_of_lt (Nat.zero_le _) attempts)
    have given := granted 0 (Nat.zero_le _)
    rw [Nat.pow_zero, Nat.mul_one] at given
    have shift (j : Nat) : length * 2 ^ (j + 1) = 2 * length * 2 ^ j := by
      rw [Nat.pow_succ, Nat.mul_comm (2 ^ j), ← Nat.mul_assoc, Nat.mul_comm length]
    rw [shift] at enough within small
    have twice : 2 * length ≤ 2 * length * 2 ^ doublings := Nat.le_mul_of_pos_right _ (Nat.two_pow_pos _)
    obtain ⟨after, ran⟩ := first remaining state (by omega) given
    by_cases fits : needed ≤ length
    · rw [if_pos fits] at ran
      refine ⟨0, Nat.zero_le _, ?_⟩
      rw [Nat.pow_zero, Nat.mul_one]
      exact ⟨fits, after, ran⟩
    · have doubled : next length none = 2 * length := by
        rw [next_eq_grown, grown]
        omega
      rw [if_neg fits, doubled] at ran
      have granting (j : Nat) (fewer : j ≤ doublings) :
          allocate allocator elementSize (2 * length * 2 ^ j) = .ok () :=
        shift j ▸ granted (j + 1) (Nat.succ_le_succ fewer)
      obtain ⟨j, fewer, fits, later, reached⟩ := ih after (Nat.lt_of_succ_lt_succ attempts) enough within granting small
      refine ⟨j + 1, Nat.succ_le_succ fewer, ?_⟩
      rw [shift]
      exact ⟨fits, later, ran.trans reached⟩

end Growth

namespace Linux.Probe

variable (p : Probe)

/-- A kernel with a mask of some width: a smaller buffer is an invalid argument. -/
def KernelMask (host : (c : Call) → StateM σ c.Answer) (pid : Pid) (mask : List Nat) : Prop :=
  ∀ size state, ((host (.posix (.getAffinity pid size))).run state).1 =
    if mask.length * 8 ≤ size then .ok mask else .error (.number ErrorNumber.invalidArgument)

def maskAttempt (pid : Pid) (length : Nat) : Query (Attempt (List Nat)) := do
  match ← (Ask.posix (.getAffinity pid (length * 8)) : Program (Except IoError (List Nat))) with
  | .ok words => return .done (((Buffer.zeroed length).fill words).first (min length length))
  | .error cause =>
    if cause = .number ErrorNumber.invalidArgument then return .tooSmall none
    p.live.fail pid "sched_getaffinity" cause

theorem affinityMask_eq : p.affinityMask pid = Growth.loop p.context.buffers .standard 8 "sched_getaffinity"
    (maskAttempt p pid) p.context.buffers.maxAttempts initialWords := by
  rw [affinityMask, Growth.untilFits, Growth.untilDone]
  refine congrArg (Growth.loop _ _ _ _ · _ _) (funext fun length => ?_)
  rw [maskAttempt, bind_assoc]
  refine congrArg (_ >>= ·) (funext fun reply => ?_)
  cases reply with
  | ok words => rfl
  | error cause =>
    dsimp only
    split
    · rfl
    · rw [Liveness.fail, bind_assoc]
      rfl

/-- The kernel answers a buffer that is wide enough with its mask, and asks for more room otherwise. -/
theorem maskAttempt_ran {mask : List Nat} (kernel : KernelMask host pid mask) (length : Nat) (state : σ) :
    ∃ after, (maskAttempt p pid length).ran host state =
      (.ok (if mask.length ≤ length then .done (mask ++ List.replicate (length - mask.length) 0) else .tooSmall none),
        after) := by
  have ran : (maskAttempt p pid length).ran host state =
      (match ((host (.posix (.getAffinity pid (length * 8)))).run state).1 with
        | .ok words => return .done (((Buffer.zeroed length).fill words).first (min length length))
        | .error cause =>
          if cause = .number ErrorNumber.invalidArgument then return .tooSmall none
          else p.live.fail pid "sched_getaffinity" cause : Query _).ran host
        ((host (.posix (.getAffinity pid (length * 8)))).run state).2 := rfl
  rw [ran, kernel]
  by_cases fits : mask.length ≤ length
  · have written : ((Buffer.zeroed length).fill mask).first (min length length) =
        mask ++ List.replicate (length - mask.length) 0 := by
      simp only [Buffer.zeroed, Buffer.fill, Buffer.first, Nat.min_self, List.take_of_length_le fits]
      rfl
    rw [if_pos fits, if_pos (Nat.mul_le_mul_right 8 fits), ← written]
    exact ⟨_, rfl⟩
  · rw [if_neg fits, if_neg (by omega)]
    exact ⟨_, rfl⟩

/-- Some doubling of the first buffer is wide enough for a mask, is still attempted and can be had. -/
def Reaches (buffers : BufferPolicy) (words : Nat) : Prop :=
  ∃ doublings < buffers.maxAttempts, words ≤ initialWords * 2 ^ doublings ∧
    initialWords * 2 ^ doublings * 8 ≤ buffers.maxSize ∧
    Growth.Allocator.standard.grants (initialWords * 2 ^ doublings * 8) = true

/-- The processors of a process are told in ascending order, whatever the width of the kernel's mask. -/
theorem cpuAffinity_ran (nonnegative : 0 ≤ pid) {mask : List Nat} (kernel : KernelMask host pid mask)
    (reaches : Reaches p.context.buffers mask.length) (state : σ) :
    ∃ told, ((p.cpuAffinity pid).ran host state).1 = .ok told ∧ told.Pairwise (· < ·) ∧
      ∀ cpu, cpu ∈ told ↔ Has mask cpu := by
  obtain ⟨doublings, attempts, enough, within, granted⟩ := reaches
  have small : initialWords * 2 ^ doublings * 8 < 1 <<< 47 := of_decide_eq_true granted
  have granting (j : Nat) (fewer : j ≤ doublings) :
      Growth.allocate .standard 8 (initialWords * 2 ^ j) = .ok () := by
    have fewer : initialWords * 2 ^ j ≤ initialWords * 2 ^ doublings :=
      Nat.mul_le_mul_left _ (Nat.pow_le_pow_right (by decide) fewer)
    refine if_pos (.inr (decide_eq_true ?_))
    omega
  have top : (1 <<< 47 : Nat) ≤ Word.top := by decide
  obtain ⟨j, -, fits, after, ran⟩ := Growth.loop_doubled (maskAttempt_ran p kernel) doublings state
    attempts enough ((Nat.le_div_iff_mul_le (by decide)).mpr within) granting (by omega)
  refine ⟨cpusOfMask (mask ++ List.replicate (initialWords * 2 ^ j - mask.length) 0), ?_,
    Affinity.pairwise_cpusOfMask _, fun cpu => Affinity.mem_cpusOfMask.trans Affinity.has_append_replicate⟩
  rw [cpuAffinity, checkPid_of_nonnegative nonnegative]
  change ((p.affinityMask pid >>= fun mask => pure (cpusOfMask mask)).ran host state).1 = _
  rw [affinityMask_eq, Query.ran_bind, ran]
  rfl

end Linux.Probe

/-! ### FreeBSD -/

namespace FreeBSD

variable (p : BSD.Probe)

theorem settings_setCpuAffinity (nonnegative : 0 ≤ pid) (low : ∀ cpu ∈ cpus, cpu < setWords * 64) :
    (setCpuAffinity p pid cpus).settings host state =
      [.posix (.setCpuSet setLevel setOwner pid (maskOfCpus cpus))] := by
  have live : (live p).Within (·.setsProcessors = false) pid := live_within (fun _ _ => rfl) fun _ => rfl
  have found : cpus.find? (fun cpu => cpu ≥ setWords * 64) = none := by
    rw [List.find?_eq_none]
    exact fun cpu member => by simpa using low cpu member
  have whole : (maskOfCpus cpus).take setWords = maskOfCpus cpus := by
    refine List.take_of_length_le (Affinity.length_maskOfCpus_le_iff.mpr ⟨Nat.le_refl _, fun cpu member => ?_⟩)
    exact Nat.div_lt_of_lt_mul (Nat.mul_comm setWords 64 ▸ low cpu member)
  rw [setCpuAffinity, checkPid_of_nonnegative nonnegative, found, whole]
  refine Query.settings_call rfl fun answered => ?_
  cases answered with
  | ok done => exact .pure _
  | error cause => exact .fail live _ _

theorem setCpuAffinity_of_le (nonnegative : 0 ≤ pid) {cpu : Nat} (member : cpu ∈ cpus) (high : setWords * 64 ≤ cpu) :
    ∃ error, setCpuAffinity p pid cpus = Query.report error := by
  cases found : cpus.find? (fun cpu => cpu ≥ setWords * 64) with
  | none => exact absurd (decide_eq_true high) (List.find?_eq_none.mp found cpu member)
  | some first =>
    rw [setCpuAffinity, checkPid_of_nonnegative nonnegative, found]
    exact ⟨_, rfl⟩

end FreeBSD

/-! ### Windows -/

namespace Windows

variable {context : Context}

/-- The masks of a process that is opened to be changed, and of the system. -/
def masksToChange (context : Context) (pid : Pid) : Query (Nat × Nat) := do
  openProcess context pid Access.change
  affinityMasks context pid

theorem setCpuAffinity_eq : setCpuAffinity context pid cpus = masksToChange context pid >>= fun masks =>
    match maskOfCpus? cpus masks.2 with
    | none => refused "SetProcessAffinityMask" ("invalid CPU set [" ++ ", ".intercalate (cpus.map toString) ++ "]")
    | some mask => (liftM (Program.call (.windows (.setAffinityMask pid mask))) : Query (Except IoError Unit)) >>=
        answeredFor context pid "SetProcessAffinityMask" := by
  rw [masksToChange, bind_assoc]
  rfl

private theorem looks_unset : Looks (·.setsProcessors = false) pid := ⟨fun _ => rfl, rfl, fun _ _ => rfl⟩

theorem unset_answeredFor (call : String) (reply : Except IoError α) : (answeredFor context pid call reply).Unset := by
  cases reply with
  | ok a => exact .pure a
  | error cause => exact .fail (live_within looks_unset) _ _

theorem unset_masksToChange : (masksToChange context pid).Unset :=
  .bind (openProcess_within looks_unset _) fun _ => .ask (.call rfl) fun reply => unset_answeredFor _ reply

theorem returns_masksToChange : (masksToChange context pid).Returns := by
  refine .bind (returns_openProcess _) fun _ => .bind (.ofProgram _) fun reply => ?_
  cases reply with
  | ok masks => exact .pure _
  | error cause => exact .fail _ _ _ _

/-- The process can be opened, and its system has all the processors, of which there are some. -/
def Accepts (host : (c : Call) → StateM σ c.Answer) (context : Context) (pid : Pid) (cpus : List Nat) (state : σ) :
    Prop :=
  ∃ own system after, (masksToChange context pid).ran host state = (.ok (own, system), after) ∧ Allowed system cpus

/-- Processors that the system has are handed to the kernel as one mask. -/
theorem settings_setCpuAffinity (accepts : Accepts host context pid cpus state) :
    ∃ mask, (setCpuAffinity context pid cpus).settings host state = [.windows (.setAffinityMask pid mask)] ∧
      cpusOfMask mask = sorted cpus ∧ mask < Word.span := by
  obtain ⟨own, system, after, opened, allowed⟩ := accepts
  obtain ⟨mask, made, decoded, small⟩ := maskOfCpus?_of_allowed allowed
  refine ⟨mask, ?_, decoded, small⟩
  rw [setCpuAffinity_eq, Query.settings_bind, unset_masksToChange.settings, opened, List.nil_append]
  dsimp only
  rw [made]
  exact Query.settings_call rfl fun reply => unset_answeredFor _ reply

/-- Otherwise nothing is set and an error is reported. -/
theorem setCpuAffinity_of_not_accepts (refuses : ¬Accepts host context pid cpus state) :
    (setCpuAffinity context pid cpus).settings host state = [] ∧
      ∃ error, ((setCpuAffinity context pid cpus).ran host state).1 = .error (.report error) := by
  rw [setCpuAffinity_eq, Query.settings_bind, unset_masksToChange.settings, Query.ran_bind]
  cases opened : (masksToChange context pid).ran host state with
  | mk result after =>
    match result with
    | .ok (own, system) =>
      have none := maskOfCpus?_of_not_allowed fun allowed => refuses ⟨own, system, after, opened, allowed⟩
      dsimp only
      rw [none]
      exact ⟨rfl, _, rfl⟩
    | .error (.report error) => exact ⟨rfl, error, rfl⟩
    | .error .abort =>
      have aborts : (masksToChange context pid).Aborts host state := congrArg Prod.fst opened
      exact absurd aborts returns_masksToChange.not_aborts

end Windows

/-! ### All together -/

/-- Masks that are handed to the kernel tell the processors asked for, each once and in order, and the processors read
on Linux are those of the kernel's mask, however wide it is. -/
theorem processors_carried (host : (c : Call) → StateM σ c.Answer) (state : σ) {pid : Pid} (nonnegative : 0 ≤ pid)
    (cpus : List Nat) :
    (∀ p : Linux.Probe,
      (cpus ≠ [] → ∃ mask, (p.setCpuAffinity pid cpus).settings host state = [.posix (.setAffinity pid mask)] ∧
        Carries mask cpus) ∧
      (cpus = [] → ∃ error, p.setCpuAffinity pid cpus = Query.report error)) ∧
    (∀ p : BSD.Probe,
      ((∀ cpu ∈ cpus, cpu < 1024) → ∃ mask, (FreeBSD.setCpuAffinity p pid cpus).settings host state =
        [.posix (.setCpuSet FreeBSD.setLevel FreeBSD.setOwner pid mask)] ∧ mask.length = 16 ∧ Carries mask cpus) ∧
      ((∃ cpu ∈ cpus, 1024 ≤ cpu) → ∃ error, FreeBSD.setCpuAffinity p pid cpus = Query.report error)) ∧
    (∀ context,
      (Windows.Accepts host context pid cpus state →
        ∃ mask, (Windows.setCpuAffinity context pid cpus).settings host state =
          [.windows (.setAffinityMask pid mask)] ∧ Windows.cpusOfMask mask = sorted cpus ∧ mask < Word.span) ∧
      (¬Windows.Accepts host context pid cpus state →
        (Windows.setCpuAffinity context pid cpus).settings host state = [] ∧
          ∃ error, ((Windows.setCpuAffinity context pid cpus).ran host state).1 = .error (.report error))) ∧
    ∀ (p : Linux.Probe) (mask : List Nat), Linux.Probe.KernelMask host pid mask →
      Linux.Probe.Reaches p.context.buffers mask.length →
      ∃ told, ((p.cpuAffinity pid).ran host state).1 = .ok told ∧ told.Pairwise (· < ·) ∧
        ∀ cpu, cpu ∈ told ↔ Has mask cpu := by
  refine ⟨fun p => ⟨fun nonempty => ?_, ?_⟩, fun p => ⟨fun low => ?_, ?_⟩, fun context => ⟨?_, ?_⟩, ?_⟩
  · exact ⟨_, p.settings_setCpuAffinity nonnegative nonempty, Affinity.carries_maskOfCpus cpus⟩
  · rintro rfl
    exact ⟨_, p.setCpuAffinity_nil nonnegative⟩
  · have carries := Affinity.carries_maskOfCpus cpus
    have narrow : (maskOfCpus cpus).length ≤ 16 := by
      refine Affinity.length_maskOfCpus_le_iff.mpr ⟨Nat.le_refl _, fun cpu member => ?_⟩
      have below := low cpu member
      omega
    exact ⟨_, FreeBSD.settings_setCpuAffinity p nonnegative low, Nat.le_antisymm narrow carries.wide.1, carries⟩
  · rintro ⟨cpu, member, high⟩
    exact FreeBSD.setCpuAffinity_of_le p nonnegative member high
  · exact Windows.settings_setCpuAffinity
  · exact Windows.setCpuAffinity_of_not_accepts
  · exact fun p mask kernel reaches => p.cpuAffinity_ran nonnegative kernel reaches state

/-- A machine of 1280 processors, the last of which alone may run a process, and one whose system has four. -/
private def wideMachine : (c : Call) → StateM Unit c.Answer := fun c =>
  let host : Host := {
    posix := { affinity := some (.ok (List.replicate 19 0 ++ [1 <<< 63])), setAffinity := some (.ok ()) }
    windows := { processes := [(42, { affinity := (1, 15) })] } }
  pure (host.reply c)

/-- The processors of two masks, and those that a mask of 1280 bits tells. -/
theorem processors_carried_wideMachine :
    (∃ mask, (({} : Linux.Probe).setCpuAffinity 42 [3, 1, 3]).settings wideMachine () =
      [.posix (.setAffinity 42 mask)] ∧ cpusOfMask mask = [1, 3]) ∧
    (∃ mask, (Windows.setCpuAffinity {} 42 [3, 1, 3]).settings wideMachine () =
      [.windows (.setAffinityMask 42 mask)] ∧ Windows.cpusOfMask mask = [1, 3]) ∧
    ∃ told, ((({} : Linux.Probe).cpuAffinity 42).ran wideMachine ()).1 = .ok told ∧ 1279 ∈ told ∧ 1278 ∉ told := by
  have ordered : sorted [3, 1, 3] = [1, 3] := by
    refine (Affinity.eq_sorted_of_mem_iff (by decide) fun cpu => ?_).symm
    rw [List.mem_pair, List.mem_cons, List.mem_pair]
    omega
  obtain ⟨linux, -, windows, reading⟩ :=
    processors_carried wideMachine () (by decide : (0 : Pid) ≤ 42) [3, 1, 3]
  refine ⟨?_, ?_, ?_⟩
  · obtain ⟨mask, handed, carries⟩ := (linux {}).1 nofun
    exact ⟨mask, handed, carries.decoded.trans ordered⟩
  · have accepts : Windows.Accepts wideMachine {} 42 [3, 1, 3] () :=
      ⟨1, 15, (), rfl, nofun, by decide⟩
    obtain ⟨mask, handed, decoded, -⟩ := (windows {}).1 accepts
    exact ⟨mask, handed, decoded.trans ordered⟩
  · have kernel : Linux.Probe.KernelMask wideMachine 42 (List.replicate 19 0 ++ [1 <<< 63]) := by
      intro size state
      change (if size < 160 then .error (.number ErrorNumber.invalidArgument) else .ok _ : Except IoError _) =
        if 160 ≤ size then .ok _ else .error (.number ErrorNumber.invalidArgument)
      rcases Nat.lt_or_ge size 160 with small | large
      · rw [if_pos small, if_neg (Nat.not_le.mpr small)]
      · rw [if_neg (Nat.not_lt.mpr large), if_pos large]
    have reaches : Linux.Probe.Reaches ({} : Linux.Probe).context.buffers 20 :=
      ⟨1, by decide, by decide, by decide, by decide⟩
    obtain ⟨told, ran, -, members⟩ := reading {} _ kernel reaches
    exact ⟨told, ran, (members 1279).mpr (by decide), fun member => absurd ((members 1278).mp member) (by decide)⟩

end HostProbe
