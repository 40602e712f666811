import HostProbe.Footprint.Regions
import HostProbe.Host
import HostProbe.Proofs.Identifiers.Within
import Mathlib.Algebra.GroupWithZero.Nat

/-! The walk over the regions of a task. A kernel that answers with the first region that ends above the address asked
about leads it through every region once, and what is private to the task adds up; a kernel that fails in the midst of
them leaves no sum. -/
namespace HostProbe.Footprint

variable {σ : Type} {host : (c : Call) → StateM σ c.Answer} {state : σ} {architecture : Architecture}
  {task : Option Pid} {questions left address counted : Nat} {region : MemoryRegion} {regions : List MemoryRegion}

/-! ### Pages of one region -/

/-- Addresses of the cache that every process shares. -/
def Cached : Architecture → Nat → Prop
  | .arm64, address => 0x180000000 ≤ address ∧ address < 0x280000000
  | .other, address => 0x7fff00000000 ≤ address ∧ address < 0x7fffffe00000

instance : (architecture : Architecture) → (address : Nat) → Decidable (Cached architecture address)
  | .arm64, _ => inferInstanceAs (Decidable (_ ∧ _))
  | .other, _ => inferInstanceAs (Decidable (_ ∧ _))

/-- Pages that count: all of a private region; outside of the shared cache all of a region of large pages, and of one
that is copied when it is written the private ones, or all if nothing else refers to it. -/
def ownPages (architecture : Architecture) (region : MemoryRegion) : Nat :=
  match region.shareMode with
  | 2 => region.privatePages + region.sharedPages
  | 8 => if Cached architecture region.address then 0 else region.privatePages + region.sharedPages
  | 1 =>
    if Cached architecture region.address then 0
    else if region.references = 1 then region.privatePages + region.sharedPages
    else region.privatePages
  | _ => 0

theorem inSharedCache_eq (architecture : Architecture) (address : Nat) :
    architecture.inSharedCache address = decide (Cached architecture address) := by
  cases architecture with
  | arm64 => exact (Bool.decide_and _ _).symm
  | other => exact (Bool.decide_and _ _).symm

theorem privatePages_eq (architecture : Architecture) (region : MemoryRegion) :
    privatePages architecture region = ownPages architecture region := by
  rw [privatePages, ownPages, inSharedCache_eq]
  grind

/-! ### Kernels -/

def behind (region : MemoryRegion) : Nat := region.address + region.size

/-- Regions that follow each other, none of them empty, and that end below the largest address. -/
def Laid (regions : List MemoryRegion) : Prop :=
  regions.Pairwise (behind · ≤ ·.address) ∧ ∀ region ∈ regions, 0 < region.size ∧ behind region < Word.top

instance : Decidable (Laid regions) := inferInstanceAs (Decidable (_ ∧ _))

/-- The first region that ends above an address; past the last, the failure that says so. -/
def regionAt (regions : List MemoryRegion) (address : Nat) : Except KernelResult MemoryRegion :=
  match regions.find? (address < behind ·) with
  | some region => .ok region
  | none => .error 1

/-- Whatever came before, the kernel answers for an address with the first region that ends above it. -/
def Presents (host : (c : Call) → StateM σ c.Answer) (task : Option Pid) (regions : List MemoryRegion) : Prop :=
  ∀ address state, ((host (.mach (.region task address))).run state).1 = regionAt regions address

/-- Each region that the kernel answers with ends above the address asked about. -/
def Advances (host : (c : Call) → StateM σ c.Answer) (task : Option Pid) : Prop :=
  ∀ address state region, ((host (.mach (.region task address))).run state).1 = .ok region →
    address < Word.saturatingAdd region.address region.size

theorem regionAt_of_lt (within : address < behind region) : regionAt (region :: regions) address = .ok region := by
  have first : (region :: regions).find? (address < behind ·) = some region :=
    List.find?_cons_of_pos (decide_eq_true within)
  rw [regionAt, first]

theorem regionAt_of_le (past : behind region ≤ address) :
    regionAt (region :: regions) address = regionAt regions address := by
  have farther : (region :: regions).find? (address < behind ·) = regions.find? (address < behind ·) :=
    List.find?_cons_of_neg (by simpa using past)
  rw [regionAt, regionAt, farther]

/-- A kernel that presents regions moves on with each of them. -/
theorem advances_of_presents (laid : Laid regions) (presents : Presents host task regions) : Advances host task := by
  intro address state region answered
  rw [presents, regionAt] at answered
  cases found : regions.find? (address < behind ·) with
  | none =>
    rw [found] at answered
    cases answered
  | some other =>
    rw [found] at answered
    cases answered
    have below := (laid.2 region (List.mem_of_find?_eq_some found)).2
    have above : address < behind region :=
      of_decide_eq_true (List.find?_some (p := fun other => decide (address < behind other)) found)
    exact Nat.lt_min.mpr ⟨above, Nat.lt_trans above below⟩

/-- Regions that follow each other are fewer than addresses. -/
theorem length_le_of_laid (laid : Laid regions) (before : ∀ region ∈ regions, address ≤ region.address) :
    regions.length ≤ Word.top - address := by
  induction regions generalizing address with
  | nil => exact Nat.zero_le _
  | cons region others ih =>
    obtain ⟨ordered, others_ordered⟩ := List.pairwise_cons.mp laid.1
    obtain ⟨⟨positive, below⟩, others_below⟩ := List.forall_mem_cons.mp laid.2
    have start := before region List.mem_cons_self
    have fewer := ih ⟨others_ordered, others_below⟩ ordered
    rw [List.length_cons]
    unfold behind at below fewer
    omega

/-! ### The walk -/

def walkFailure (result : KernelResult) : Failure IoError :=
  .report (.custom .other s!"mach_vm_region failed with kern_return_t {result}")

/-- What the walk does with an answer if it may ask so many more questions. -/
def onward (architecture : Architecture) (task : Option Pid) (left counted : Nat) :
    Except KernelResult MemoryRegion → Reading (Option Nat)
  | .error result => if result = 1 then pure (some counted) else throw (walkFailure result)
  | .ok region =>
    match Word.add counted (ownPages architecture region) with
    | .error _ => throw .abort
    | .ok sum => privatePagesFrom architecture task left (Word.saturatingAdd region.address region.size) sum

theorem saturatingAdd_le_top (a b : Nat) : Word.saturatingAdd a b ≤ Word.top := Nat.min_le_right _ _

/-- One step of the walk. -/
theorem privatePagesFrom_run : (privatePagesFrom architecture task (left + 1) address counted).run =
    .ask (.mach (.region task address)) fun answer => (onward architecture task left counted answer).run := by
  rw [privatePagesFrom]
  refine congrArg (Program.ask _) (funext fun answer => ?_)
  cases answer with
  | error result => rfl
  | ok region =>
    rw [onward, ← privatePages_eq]
    rfl

/-- One question, and what the walk does with its answer. -/
theorem walk_step {answer : Except KernelResult MemoryRegion}
    (answered : ((host (.mach (.region task address))).run state).1 = answer) :
    (privatePagesFrom architecture task (left + 1) address counted).run.ran host state =
        (onward architecture task left counted answer).run.ran host
          ((host (.mach (.region task address))).run state).2 ∧
      (privatePagesFrom architecture task (left + 1) address counted).run.told host state =
        ⟨.mach (.region task address), answer⟩ :: (onward architecture task left counted answer).run.told host
          ((host (.mach (.region task address))).run state).2 := by
  subst answered
  rw [privatePagesFrom_run]
  exact ⟨rfl, rfl⟩

/-- A kernel that presents regions that lie behind the address leads the walk through each of them once. -/
theorem walk_of_presents (laid : Laid regions) (before : ∀ region ∈ regions, address ≤ region.address)
    (presents : ∀ a, address ≤ a → ∀ state, ((host (.mach (.region task a))).run state).1 = regionAt regions a)
    (fits : counted + (regions.map (ownPages architecture)).sum < Word.span) (enough : regions.length < questions) :
    ((privatePagesFrom architecture task questions address counted).run.ran host state).1 =
        .ok (some (counted + (regions.map (ownPages architecture)).sum)) ∧
      ((privatePagesFrom architecture task questions address counted).run.told host state).map Exchange.question =
        (address :: regions.map behind).map fun a => .mach (.region task a) := by
  obtain ⟨left, rfl⟩ := Nat.exists_eq_add_of_lt (Nat.zero_lt_of_lt enough)
  rw [Nat.zero_add] at enough ⊢
  induction regions generalizing address counted left state with
  | nil =>
    have past := presents address (Nat.le_refl _) state
    rw [(walk_step past).1, (walk_step past).2]
    exact ⟨rfl, rfl⟩
  | cons region others ih =>
    obtain ⟨ordered, others_ordered⟩ := List.pairwise_cons.mp laid.1
    obtain ⟨⟨positive, below⟩, others_below⟩ := List.forall_mem_cons.mp laid.2
    have within : address < behind region := by
      have := before region List.mem_cons_self
      unfold behind
      omega
    have next : Word.saturatingAdd region.address region.size = behind region := Nat.min_eq_left (Nat.le_of_lt below)
    rw [List.map_cons, List.sum_cons, ← Nat.add_assoc] at fits ⊢
    have added : Word.add counted (ownPages architecture region) = .ok (counted + ownPages architecture region) :=
      Word.check_eq_ok_iff.mpr ⟨rfl, by omega⟩
    have first := (presents address (Nat.le_refl _) state).trans (regionAt_of_lt within)
    rw [List.length_cons] at enough
    obtain ⟨fewer, rfl⟩ : ∃ fewer, left = fewer + 1 := Nat.exists_eq_add_of_le' (by omega)
    have goes : onward architecture task (fewer + 1) counted (.ok region) =
        privatePagesFrom architecture task (fewer + 1) (behind region) (counted + ownPages architecture region) := by
      rw [onward, added, next]
    -- Where a region ends, the kernel presents those that are left as if there were no others.
    have served : ∀ a, behind region ≤ a → ∀ state,
        ((host (.mach (.region task a))).run state).1 = regionAt others a := fun a past state =>
      (presents a (Nat.le_trans (Nat.le_of_lt within) past) state).trans (regionAt_of_le past)
    rw [(walk_step first).1, (walk_step first).2, goes]
    obtain ⟨result, asked⟩ := ih ⟨others_ordered, others_below⟩ ordered served fits fewer (by omega)
    exact ⟨result, congrArg (_ :: ·) asked⟩

/-- Over regions that the kernel presents, the walk counts the pages of every one of them. -/
theorem walk_from_start (laid : Laid regions) (presents : Presents host task regions)
    (fits : (regions.map (ownPages architecture)).sum < Word.span) (enough : regions.length < questions) :
    ((privatePagesFrom architecture task questions 0 0).run.ran host state).1 =
        .ok (some (regions.map (ownPages architecture)).sum) ∧
      (privatePagesFrom architecture task questions 0 0).run.askedOf host state =
        (0 :: regions.map behind).map fun address => .mach (.region task address) := by
  rw [← Program.map_question_told]
  rw [← Nat.zero_add (regions.map (ownPages architecture)).sum] at fits ⊢
  exact walk_of_presents laid (fun _ _ => Nat.zero_le _) (fun address _ => presents address) fits enough

/-- A failure other than past the last region ends the walk, with no sum. -/
theorem walk_of_failure {port : Option Pid} {failed : Nat} {result : KernelResult} (other : result ≠ 1)
    (told : ⟨.mach (.region port failed), .error result⟩ ∈
      (privatePagesFrom architecture task questions address counted).run.told host state) :
    ((privatePagesFrom architecture task questions address counted).run.ran host state).1 =
      .error (walkFailure result) := by
  induction questions generalizing address counted state with
  | zero => cases told
  | succ left ih =>
    cases reply : ((host (.mach (.region task address))).run state).1 with
    | error answer =>
      rw [(walk_step reply).2, onward] at told
      rw [(walk_step reply).1, onward]
      rcases List.mem_cons.mp told with here | later
      · obtain ⟨-, same⟩ := Exchange.mk.inj here
        cases same
        rw [if_neg other]
        rfl
      · split at later <;> cases later
    | ok region =>
      rw [(walk_step reply).2, onward] at told
      rw [(walk_step reply).1, onward]
      rcases List.mem_cons.mp told with here | later
      · obtain ⟨-, same⟩ := Exchange.mk.inj here
        cases same
      · split at later
        · cases later
        · exact ih later

/-- A walk that is over does not ask any of the further questions that it may. -/
theorem walk_of_over (finished : ((privatePagesFrom architecture task questions address counted).run.ran host state).1 ≠
    .ok none) (more : Nat) :
    (privatePagesFrom architecture task (questions + more) address counted).run.ran host state =
      (privatePagesFrom architecture task questions address counted).run.ran host state := by
  induction questions generalizing address counted state with
  | zero => exact absurd rfl finished
  | succ left ih =>
    rw [Nat.add_right_comm]
    cases reply : ((host (.mach (.region task address))).run state).1 with
    | error result =>
      rw [(walk_step reply).1, (walk_step reply).1]
      rfl
    | ok region =>
      rw [(walk_step reply).1, onward] at finished
      rw [(walk_step reply).1, (walk_step reply).1, onward, onward]
      split at finished
      · rfl
      · exact ih finished

/-- A kernel that moves on has no address left for another question than one for each. -/
theorem walk_of_advances (advances : Advances host task) (address_le : address ≤ Word.top)
    (enough : Word.top < address + questions) :
    ((privatePagesFrom architecture task questions address counted).run.ran host state).1 ≠ .ok none := by
  induction questions generalizing address counted state with
  | zero => exact absurd address_le (Nat.not_le.mpr enough)
  | succ left ih =>
    cases reply : ((host (.mach (.region task address))).run state).1 with
    | error result =>
      rw [(walk_step reply).1, onward]
      split <;> nofun
    | ok region =>
      have onwards := advances address state region reply
      rw [(walk_step reply).1, onward]
      split
      · nofun
      · exact ih (saturatingAdd_le_top _ _) (by omega)

/-! ### The whole reading -/

namespace RegionQuerier

variable {q : RegionQuerier} {rss : Nat} {middle after : σ}

/-- No question about a region. -/
def Regionless : Call → Prop
  | .mach (.region ..) => False
  | _ => True

theorem regionless_resident (q : RegionQuerier) : Query.Within Regionless q.resident := by
  rw [resident]
  split
  · refine .ask (.call trivial) fun answer => ?_
    cases answer with
    | ok size => exact .pure _
    | error cause => exact .throw _
  · refine .ask (.call trivial) fun answer => ?_
    cases answer with
    | error cause => exact .throw _
    | ok bytes =>
      dsimp only
      split
      · exact .pure _
      · exact .throw _

theorem regionless_openTask (q : RegionQuerier) : Query.Within Regionless q.openTask := by
  rw [openTask]
  split
  · exact .pure _
  · refine .ask (.call trivial) fun answer => ?_
    cases answer with
    | ok granted => exact .pure _
    | error result => exact .throw _

/-- The footprint once the walk is over; it must fit into a word. -/
def sized (q : RegionQuerier) (rss : Nat) : Option Nat → Reading Footprint
  | none => throw .abort
  | some pages =>
    match Word.mul pages q.pageSize with
    | .ok uss => return { rss, uss := some uss }
    | .error _ => throw .abort

theorem footprint_eq (q : RegionQuerier) : q.footprint = q.resident >>= fun rss => q.openTask >>= fun task =>
    privatePagesFrom q.architecture task Word.span 0 0 >>= q.sized rss := by
  refine bind_congr fun rss => bind_congr fun task => bind_congr fun pages => ?_
  cases pages <;> rfl

/-- The footprint of the regions that the kernel presents, or an abort if it does not fit a word. -/
theorem footprint_of_presents (resident : q.resident.run.ran host state = (.ok rss, middle))
    (opened : q.openTask.run.ran host middle = (.ok task, after)) (laid : Laid regions)
    (presents : Presents host task regions) (fits : (regions.map (ownPages q.architecture)).sum < Word.span) :
    (q.footprint.run.ran host state).1 =
      if (regions.map (ownPages q.architecture)).sum * q.pageSize < Word.span then
        .ok { rss, uss := some ((regions.map (ownPages q.architecture)).sum * q.pageSize) }
      else .error .abort := by
  have few : regions.length < Word.span := Nat.lt_succ_of_le (length_le_of_laid laid fun _ _ => Nat.zero_le _)
  have counted : ((privatePagesFrom q.architecture task Word.span 0 0).run.ran host after).1 =
      .ok (some (regions.map (ownPages q.architecture)).sum) := (walk_from_start laid presents fits few).1
  rw [footprint_eq, Program.ran_except_bind_of_ok resident, Program.ran_except_bind_of_ok opened,
    Program.ran_except_bind_of_ok (Prod.ext counted rfl), sized, Word.mul, Word.check]
  by_cases small : (regions.map (ownPages q.architecture)).sum * q.pageSize < Word.span
  · rw [if_pos small, if_pos small]
    rfl
  · rw [if_neg small, if_neg small]
    rfl

/-- A failure behind any region, other than the end of them, is the failure of the footprint. -/
theorem footprint_of_failure {failed : Nat} {result : KernelResult} (other : result ≠ 1)
    (told : ⟨.mach (.region task failed), .error result⟩ ∈ q.footprint.run.told host state) :
    (q.footprint.run.ran host state).1 = .error (walkFailure result) := by
  rw [footprint_eq] at told ⊢
  rcases Program.mem_told_except_bind_iff.mp told with early | ⟨rss, middle, resident, told⟩
  · exact absurd (Program.Within.told q.regionless_resident state _ early) id
  rcases Program.mem_told_except_bind_iff.mp told with early | ⟨port, after, opened, told⟩
  · exact absurd (Program.Within.told q.regionless_openTask middle _ early) id
  rcases Program.mem_told_except_bind_iff.mp told with walked | ⟨pages, last, counted, told⟩
  · rw [Program.ran_except_bind_of_ok resident, Program.ran_except_bind_of_ok opened]
    exact Program.ran_except_bind_of_error (walk_of_failure other walked) _
  · cases pages with
    | none => cases told
    | some pages =>
      rw [sized] at told
      split at told <;> cases told

end RegionQuerier

/-- Every region is counted once, with one question for each and one more past the last; any other failure of the kernel
is the failure of the whole reading. The number of questions that the walk may ask has no part in this: a kernel that
moves on is asked fewer than there are addresses. -/
theorem regions_counted (host : (c : Call) → StateM σ c.Answer) (q : RegionQuerier) (task : Option Pid) (state : σ) :
    (∀ regions, Laid regions → Presents host task regions → (regions.map (ownPages q.architecture)).sum < Word.span →
      ∀ questions, regions.length < questions →
        ((privatePagesFrom q.architecture task questions 0 0).run.ran host state).1 =
            .ok (some (regions.map (ownPages q.architecture)).sum) ∧
          (privatePagesFrom q.architecture task questions 0 0).run.askedOf host state =
            (0 :: regions.map behind).map fun address => .mach (.region task address)) ∧
    (∀ questions address result, result ≠ 1 → ⟨.mach (.region task address), .error result⟩ ∈
        (privatePagesFrom q.architecture task questions 0 0).run.told host state →
      ((privatePagesFrom q.architecture task questions 0 0).run.ran host state).1 = .error (walkFailure result)) ∧
    (Advances host task → ((privatePagesFrom q.architecture task Word.span 0 0).run.ran host state).1 ≠ .ok none ∧
      ∀ questions, Word.span ≤ questions →
        (privatePagesFrom q.architecture task questions 0 0).run.ran host state =
          (privatePagesFrom q.architecture task Word.span 0 0).run.ran host state) ∧
    (∀ regions rss middle after, q.resident.run.ran host state = (.ok rss, middle) →
      q.openTask.run.ran host middle = (.ok task, after) → Laid regions → Presents host task regions →
      (regions.map (ownPages q.architecture)).sum < Word.span →
      (q.footprint.run.ran host state).1 =
        if (regions.map (ownPages q.architecture)).sum * q.pageSize < Word.span then
          .ok { rss, uss := some ((regions.map (ownPages q.architecture)).sum * q.pageSize) }
        else .error .abort) ∧
    (∀ address result, result ≠ 1 → ⟨.mach (.region task address), .error result⟩ ∈
        q.footprint.run.told host state → (q.footprint.run.ran host state).1 = .error (walkFailure result)) := by
  refine ⟨fun _ laid presents fits _ => walk_from_start laid presents fits,
    fun _ _ _ other told => walk_of_failure other told, fun advances => ?_, ?_,
    fun _ _ other told => RegionQuerier.footprint_of_failure other told⟩
  · have finished : ((privatePagesFrom q.architecture task Word.span 0 0).run.ran host state).1 ≠ .ok none :=
      walk_of_advances advances (Nat.zero_le _) (by decide)
    refine ⟨finished, fun questions enough => ?_⟩
    obtain ⟨more, rfl⟩ := Nat.exists_eq_add_of_le enough
    exact walk_of_over finished more
  · exact fun _ _ _ _ resident opened => RegionQuerier.footprint_of_presents resident opened

/-- A program that is copied when written, with and without other tasks, a page of the shared cache that was made
private, one that was not, large pages, and memory that is shared. -/
def sixRegions : List MemoryRegion :=
  [{ address := 0x1000, size := 0x4000, references := 3, privatePages := 2, sharedPages := 100, shareMode := 1 },
    { address := 0x5000, size := 0x1000, references := 1, privatePages := 4, sharedPages := 6, shareMode := 1 },
    { address := 0x200000, size := 0x200000, references := 1, privatePages := 0, sharedPages := 512, shareMode := 8 },
    { address := 0x600000, size := 0x1000, references := 2, privatePages := 1, sharedPages := 1, shareMode := 3 },
    { address := 0x7fff00000000, size := 0x1000, references := 9, privatePages := 3, sharedPages := 5, shareMode := 2 },
    { address := 0x7fff00001000, size := 0x9000, references := 1, privatePages := 7, sharedPages := 8, shareMode := 1 }]

def sixRegionsHost : (c : Call) → StateM Unit c.Answer
  | .mach (.region _ address) => return regionAt sixRegions address
  | .mach .resident => return .ok 0x800000
  | c => return Host.reply {} c

def haltedHost : (c : Call) → StateM Unit c.Answer
  | .mach (.region _ address) => return if address = 0x5000 then .error 5 else regionAt sixRegions address
  | c => sixRegionsHost c

def ownQuerier : RegionQuerier := { target := .current, pageSize := 4096 }

theorem told_haltedHost : ⟨.mach (.region none 0x5000), .error 5⟩ ∈
    (privatePagesFrom .other none Word.span 0 0).run.told haltedHost () := by
  have span : Word.span = Word.top + 1 := rfl
  rw [span, (walk_step rfl).2]
  refine List.mem_cons_of_mem _ ?_
  change _ ∈ (privatePagesFrom .other none Word.top 0x5000 2).run.told haltedHost ()
  have top : Word.top = 0xfffffffffffffffe + 1 := rfl
  rw [top, (walk_step rfl).2]
  exact List.mem_cons_self

/-- The six regions, counted up to their end, and up to a failure behind the first of them. -/
theorem regions_counted_six :
    (Laid sixRegions ∧ Presents sixRegionsHost none sixRegions ∧ Advances sixRegionsHost none ∧
        (sixRegions.map (ownPages .other)).sum < Word.span ∧
        ownQuerier.resident.run.ran sixRegionsHost () = (.ok 0x800000, ()) ∧
        ownQuerier.openTask.run.ran sixRegionsHost () = (.ok none, ())) ∧
      ((privatePagesFrom .other none 7 0 0).run.ran sixRegionsHost ()).1 = .ok (some 532) ∧
      (privatePagesFrom .other none 7 0 0).run.askedOf sixRegionsHost () =
        ([0, 0x5000, 0x6000, 0x400000, 0x601000, 0x7fff00001000, 0x7fff0000a000].map fun address =>
          .mach (.region none address)) ∧
      ((privatePagesFrom .other none Word.span 0 0).run.ran sixRegionsHost ()).1 ≠ .ok none ∧
      (ownQuerier.footprint.run.ran sixRegionsHost ()).1 = .ok { rss := 0x800000, uss := some (532 * 4096) } ∧
      ((privatePagesFrom .other none Word.span 0 0).run.ran haltedHost ()).1 = .error (walkFailure 5) ∧
      (ownQuerier.footprint.run.ran haltedHost ()).1 = .error (walkFailure 5) := by
  have laid : Laid sixRegions := by decide
  have presents : Presents sixRegionsHost none sixRegions := fun _ _ => rfl
  have advances : Advances sixRegionsHost none := advances_of_presents laid presents
  have fits : (sixRegions.map (ownPages .other)).sum < Word.span := by decide
  have resident : ownQuerier.resident.run.ran sixRegionsHost () = (.ok 0x800000, ()) := rfl
  have opened : ownQuerier.openTask.run.ran sixRegionsHost () = (.ok none, ()) := rfl
  obtain ⟨walk, -, finished, footprint, -⟩ := regions_counted sixRegionsHost ownQuerier none ()
  obtain ⟨-, halted, -, -, stopped⟩ := regions_counted haltedHost ownQuerier none ()
  have told : ⟨.mach (.region none 0x5000), .error 5⟩ ∈ ownQuerier.footprint.run.told haltedHost () := by
    rw [RegionQuerier.footprint_eq]
    refine Program.mem_told_except_bind_iff.mpr (.inr ⟨0x800000, (), rfl, ?_⟩)
    refine Program.mem_told_except_bind_iff.mpr (.inr ⟨none, (), rfl, ?_⟩)
    exact Program.mem_told_except_bind_iff.mpr (.inl told_haltedHost)
  obtain ⟨counted, asked⟩ := walk _ laid presents fits 7 (by decide)
  exact ⟨⟨laid, presents, advances, fits, resident, opened⟩, counted, asked, (finished advances).1,
    footprint _ _ _ _ resident opened laid presents fits, halted _ _ _ (by decide) told_haltedHost,
    stopped _ _ (by decide) told⟩

end HostProbe.Footprint
