import HostProbe.Host
import HostProbe.Proofs.Endings
import HostProbe.Proofs.Identifiers.Liveness
import HostProbe.Proofs.Windows.ForeignMemory
import HostProbe.Windows

/-! The walk over the memory of another process. Each answer tells the address that is asked about next, so whatever
the answers are the addresses grow; where they divide up memory from its beginning on, every range is met once. -/
namespace HostProbe

variable {α β σ : Type} {host : (c : Call) → StateM σ c.Answer}

/-! ### Addresses that are asked about -/

def pageAddress? : Call → Option Nat
  | .windows (.pages _ address) => some address
  | _ => none

namespace Query

/-- Addresses whose pages a host with a memory is asked about, in order. -/
def pageAddresses (host : (c : Call) → StateM σ c.Answer) (query : Query α) (state : σ) : List Nat :=
  (query.run.askedOf host state).filterMap pageAddress?

/-- A query asks about the pages that its first part asks about, and then about those of what follows. -/
theorem pageAddresses_bind (query : Query α) (f : α → Query β) (state : σ) :
    (query >>= f).pageAddresses host state = query.pageAddresses host state ++
      match query.ran host state with
      | (.ok a, after) => (f a).pageAddresses host after
      | (.error _, _) => [] := by
  rw [pageAddresses, askedOf_bind, List.filterMap_append]
  refine congrArg (pageAddresses host query state ++ ·) ?_
  cases query.ran host state with
  | mk result after => cases result <;> rfl

/-- The query asks about the pages of no process. -/
def Pageless (query : Query α) : Prop := Within (pageAddress? · = none) query

theorem Pageless.pageAddresses {query : Query α} (pageless : query.Pageless) (state : σ) :
    query.pageAddresses host state = [] :=
  List.filterMap_eq_nil_iff.mpr (Program.Within.askedOf pageless state)

end Query

namespace Windows

variable {context : Context} {pid : Pid}

open Query (Pageless)

/-! ### Questions before the walk -/

theorem pageless_answered (call : String) (reply : Except IoError α) : (answered call reply).Pageless := by
  cases reply with
  | ok a => exact .pure a
  | error cause => exact .report _

private theorem pageless_looks : Looks (pageAddress? · = none) pid := ⟨fun _ => rfl, rfl, fun _ _ => rfl⟩

theorem pageless_live : (live context).Within (pageAddress? · = none) pid := live_within pageless_looks

theorem pageless_openProcess (access : Nat) : (openProcess context pid access).Pageless :=
  openProcess_within pageless_looks access

theorem pageless_driveDevices : driveDevices.Pageless := by
  refine .bind (.answer? ?_) fun roots => .bind (.mapM (fun root => ?_) _) fun _ => .pure _
  · refine .ask (.call rfl) fun reply => ?_
    exact .bind (pageless_answered _ reply) fun _ => .pure _
  · exact .ask (.call rfl) fun _ => .pure _

theorem answers_driveDevices : driveDevices.Answers := by
  refine .bind (.answer? (.bind (.ofProgram _) fun _ => .bind (returns_answered _ _) fun _ => .pure _)) fun roots => ?_
  exact .bind (.mapM (fun root => .bind (.ofProgram _) fun _ => .pure _) _) fun _ => .pure _

/-! ### The walk -/

/-- One step of the walk: a range is asked for, and decides where to go on. -/
theorem mapsFrom_run (devices : List (String × String)) (address : Nat) (found : List MemoryMap) :
    (mapsFrom context pid devices address found).run = .ask (.windows (.pages pid address)) fun
      | .error cause =>
        if address = 0 then ((live context).fail pid "VirtualQueryEx" cause : Query (List MemoryMap)).run
        else .done (.ok found.reverse)
      | .ok range => do
        let found := (← mapOf pid devices range).toList ++ found
        if address < range.base + range.size ∧ range.base + range.size < Word.span then
          (mapsFrom context pid devices (range.base + range.size) found).run
        else return .ok found.reverse := by
  rw [mapsFrom]
  refine congrArg (Program.ask _) (funext fun reply => ?_)
  cases reply with
  | error cause => split <;> rfl
  | ok range =>
    refine (Program.bind_assoc' (mapOf pid devices range) _ _).trans (bind_congr fun map => ?_)
    dsimp only
    split
    · rfl
    · rfl

theorem pageless_mapOf (devices : List (String × String)) (range : PageRange) :
    (mapOf pid devices range).Within (pageAddress? · = none) := by
  refine .ite (.pure _) (.bind (.call rfl) fun reply => ?_)
  cases reply with
  | error cause => exact .pure _
  | ok units => exact .pure _

/-- Addresses grow from one on and stay within the word. -/
def Ascending (first : Nat) (addresses : List Nat) : Prop :=
  addresses.Pairwise (· < ·) ∧ ∀ a ∈ addresses, first ≤ a ∧ a < Word.span

theorem Ascending.cons {address next : Nat} {addresses : List Nat} (ascending : Ascending next addresses)
    (within : address < Word.span) (farther : address < next) : Ascending address (address :: addresses) := by
  have behind : ∀ a ∈ addresses, address < a := fun a member => Nat.lt_of_lt_of_le farther (ascending.2 a member).1
  refine ⟨List.pairwise_cons.mpr ⟨behind, ascending.1⟩, List.forall_mem_cons.mpr ⟨⟨Nat.le_refl _, within⟩, ?_⟩⟩
  exact fun a member => ⟨Nat.le_of_lt (behind a member), (ascending.2 a member).2⟩

theorem Ascending.single {address : Nat} (within : address < Word.span) : Ascending address [address] :=
  have none : Ascending (address + 1) [] := ⟨.nil, nofun⟩
  none.cons within (Nat.lt_succ_self _)

/-- There are no more ascending addresses than words from the first of them on. -/
theorem Ascending.length_le {first : Nat} {addresses : List Nat} (ascending : Ascending first addresses) :
    addresses.length ≤ Word.span - first := by
  induction addresses generalizing first with
  | nil => exact Nat.zero_le _
  | cons address others ih =>
    obtain ⟨behind, ordered⟩ := List.pairwise_cons.mp ascending.1
    obtain ⟨within, fits⟩ := List.forall_mem_cons.mp ascending.2
    have counted : others.length ≤ Word.span - (address + 1) :=
      ih ⟨ordered, fun a member => ⟨behind a member, (fits a member).2⟩⟩
    rw [List.length_cons]
    omega

/-- The query asks about the pages at an address, and goes on as another query does then. -/
def Steps (host : (c : Call) → StateM σ c.Answer) (query : Query α) (state : σ) (address : Nat) (rest : Query α)
    (after : σ) : Prop :=
  query.ran host state = rest.ran host after ∧
    query.pageAddresses host state = address :: rest.pageAddresses host after

section steps

variable {query rest : Query α} {state after later : σ} {address : Nat}

theorem Steps.ask {next : Except IoError PageRange → Program (Outcome α)} {reply : Except IoError PageRange}
    (asks : query.run = .ask (.windows (.pages pid address)) next)
    (told : (host (.windows (.pages pid address))).run state = (reply, after)) (same : next reply = rest.run) :
    Steps host query state address rest after := by
  have ran : query.ran host state = ((next reply).runWith host).run after := by
    rw [Query.ran, asks, Program.runWith, StateT.run_bind, told]
    rfl
  have asked : query.pageAddresses host state =
      address :: ((next reply).askedOf host after).filterMap pageAddress? := by
    rw [Query.pageAddresses, asks, Program.askedOf, told]
    rfl
  rw [Steps, ran, asked, same]
  exact ⟨rfl, rfl⟩

/-- What is done before the query goes on does not show if it asks about no pages. -/
theorem Steps.behind {first : Query α} (steps : Steps host query state address first after) {p : Program β} {b : β}
    {f : β → Program (Outcome α)} (runs : first.run = p >>= f) (pageless : p.Within (pageAddress? · = none))
    (ran : (p.runWith host).run after = (b, later)) (same : f b = rest.run) :
    Steps host query state address rest later := by
  have result : first.ran host after = rest.ran host later := by
    rw [Query.ran, Query.ran, runs, Program.runWith_bind, StateT.run_bind, ran, ← same]
    rfl
  have addresses : first.pageAddresses host after = rest.pageAddresses host later := by
    rw [Query.pageAddresses, Query.pageAddresses, runs, Program.askedOf_bind, ran, List.filterMap_append,
      List.filterMap_eq_nil_iff.mpr (pageless.askedOf after), List.nil_append, ← same]
  exact ⟨steps.1.trans result, steps.2.trans (congrArg (address :: ·) addresses)⟩

end steps

section walk

variable {devices : List (String × String)} {address : Nat} {found : List MemoryMap} {state after later : σ}

/-- A failure ends the walk. -/
theorem mapsFrom_of_error {cause : IoError}
    (failed : (host (.windows (.pages pid address))).run state = (.error cause, after)) :
    Steps host (mapsFrom context pid devices address found) state address
      (if address = 0 then (live context).fail pid "VirtualQueryEx" cause else pure found.reverse) after := by
  refine .ask (mapsFrom_run devices address found) failed ?_
  dsimp only
  split
  · rfl
  · rfl

/-- Behind a range, the walk goes on where the range ends, if that is farther on. -/
theorem mapsFrom_of_ok {range : PageRange} {map : Option MemoryMap}
    (told : (host (.windows (.pages pid address))).run state = (.ok range, after))
    (mapped : ((mapOf pid devices range).runWith host).run after = (map, later)) :
    Steps host (mapsFrom context pid devices address found) state address
      (if address < range.base + range.size ∧ range.base + range.size < Word.span then
        mapsFrom context pid devices (range.base + range.size) (map.toList ++ found)
      else pure (map.toList ++ found).reverse) later := by
  have run : (mapsFrom context pid devices address found).run = _ := mapsFrom_run devices address found
  have step : Steps host (mapsFrom context pid devices address found) state address (ExceptT.mk _) after :=
    .ask run told rfl
  refine step.behind rfl (pageless_mapOf devices range) mapped ?_
  dsimp only
  split
  · rfl
  · rfl

/-- Whatever the answers are, the walk asks about ever higher addresses. -/
theorem mapsFrom_ascending (within : address < Word.span) :
    Ascending address ((mapsFrom context pid devices address found).pageAddresses host state) := by
  induction left : Word.span - address using Nat.strongRecOn generalizing address found state with
  | ind n ih =>
    cases reply : (host (.windows (.pages pid address))).run state with
    | mk answer after =>
      cases answer with
      | error cause =>
        have silent : Pageless (if address = 0 then (live context).fail pid "VirtualQueryEx" cause
            else pure found.reverse : Query (List MemoryMap)) := .ite (.fail pageless_live _ _) (.pure _)
        rw [(mapsFrom_of_error reply).2, silent.pageAddresses]
        exact .single within
      | ok range =>
        rw [(mapsFrom_of_ok reply rfl).2]
        split
        case isTrue onward => exact .cons (ih _ (by omega) onward.2 rfl) within onward.1
        case isFalse => exact .single within

/-! ### Memory that is divided up -/

/-- Ranges that are not empty and follow each other from an address up to another. -/
inductive Tiles : Nat → List PageRange → Nat → Prop
  | none {address : Nat} : Tiles address [] address
  | next {range : PageRange} {others : List PageRange} {stop : Nat} (positive : 0 < range.size)
      (behind : Tiles (range.base + range.size) others stop) : Tiles range.base (range :: others) stop

theorem tiles_nil_iff {address stop : Nat} : Tiles address [] stop ↔ address = stop :=
  ⟨fun | .none => rfl, fun same => same ▸ .none⟩

theorem tiles_cons_iff {address stop : Nat} {range : PageRange} {others : List PageRange} :
    Tiles address (range :: others) stop ↔
      address = range.base ∧ 0 < range.size ∧ Tiles (range.base + range.size) others stop := by
  constructor
  · rintro (- | ⟨positive, behind⟩)
    exact ⟨rfl, positive, behind⟩
  · rintro ⟨rfl, positive, behind⟩
    exact .next positive behind

instance Tiles.decidable :
    (address : Nat) → (ranges : List PageRange) → (stop : Nat) → Decidable (Tiles address ranges stop)
  | _, [], _ => decidable_of_iff' _ tiles_nil_iff
  | _, range :: others, stop =>
    have := decidable (range.base + range.size) others stop
    decidable_of_iff' _ tiles_cons_iff

/-- Whatever came before, the host tells each of the ranges for its first address and the name of its file if it has
one, and fails for the address behind them all. -/
structure Divides (host : (c : Call) → StateM σ c.Answer) (pid : Pid) (names : Nat → Except IoError (List UInt16))
    (ranges : List PageRange) (stop : Nat) : Prop where
  tiles : Tiles 0 ranges stop
  nonempty : ranges ≠ []
  bounded : stop ≤ Word.span
  told : ∀ range ∈ ranges, ∀ state, ((host (.windows (.pages pid range.base))).run state).1 = .ok range
  named : ∀ range ∈ ranges, ∀ state,
    ((host (.windows (.mappedFile pid range.base pathRoom))).run state).1 = names range.base
  past : stop < Word.span → ∀ state, ∃ cause, ((host (.windows (.pages pid stop))).run state).1 = .error cause

/-- A range in use with pages of a program or of another file. -/
def HoldsFile (range : PageRange) : Prop := range.state = 0x1000 ∧ (range.type = 0x1000000 ∨ range.type = 0x40000)

instance (range : PageRange) : Decidable (HoldsFile range) := inferInstanceAs (Decidable (_ ∧ _))

def fileMap? (devices : List (String × String)) (names : Nat → Except IoError (List UInt16)) (range : PageRange) :
    Option MemoryMap :=
  if HoldsFile range then
    (names range.base).toOption.map fun name => {
      address := "0x" ++ Integer.toHex range.base, perms := permissionsOf range.protection
      path := drivePath (wideText name) devices, size := range.size, rss := range.size }
  else none

variable {names : Nat → Except IoError (List UInt16)}

theorem run_mapOf {range : PageRange}
    (named : ((host (.windows (.mappedFile pid range.base pathRoom))).run state).1 = names range.base) :
    ∃ after, ((mapOf pid devices range).runWith host).run state = (fileMap? devices names range, after) := by
  refine ⟨_, Prod.ext ?_ rfl⟩
  have passedOver : (range.state ≠ committed || !(range.type == imageType || range.type == mappedType)) = true ↔
      ¬HoldsFile range := by
    grind [HoldsFile, committed, imageType, mappedType]
  rw [mapOf, fileMap?]
  by_cases holds : HoldsFile range
  · rw [if_neg (mt passedOver.mp (not_not_intro holds)), if_pos holds, ← named]
    change ((Program.runWith host (match ((host (.windows (.mappedFile pid range.base pathRoom))).run state).1 with
      | .error _ => return none
      | .ok units => return some _)).run _).1 = _
    cases ((host (.windows (.mappedFile pid range.base pathRoom))).run state).1 with
    | error cause => rfl
    | ok units => rfl
  · rw [if_pos (passedOver.mpr holds), if_neg holds]
    rfl

theorem Tiles.le {ranges : List PageRange} {stop : Nat} (tiles : Tiles address ranges stop) : address ≤ stop := by
  induction tiles with
  | none => exact Nat.le_refl _
  | next positive behind ih => omega

theorem Tiles.eq_nil {ranges : List PageRange} (tiles : Tiles address ranges address) : ranges = [] := by
  cases tiles with
  | none => rfl
  | next positive behind =>
    have farther := behind.le
    omega

/-- Where ranges follow each other, the walk meets one after the other, and asks once more if there are addresses behind
the last. -/
theorem mapsFrom_tiles {ranges : List PageRange} {stop : Nat} (tiles : Tiles address ranges stop)
    (bounded : stop ≤ Word.span) (within : address < Word.span) (begun : ranges = [] → address ≠ 0)
    (told : ∀ range ∈ ranges, ∀ state, ((host (.windows (.pages pid range.base))).run state).1 = .ok range)
    (named : ∀ range ∈ ranges, ∀ state,
      ((host (.windows (.mappedFile pid range.base pathRoom))).run state).1 = names range.base)
    (past : stop < Word.span → ∀ state, ∃ cause, ((host (.windows (.pages pid stop))).run state).1 = .error cause) :
    ((mapsFrom context pid devices address found).ran host state).1 =
        .ok (found.reverse ++ ranges.filterMap (fileMap? devices names)) ∧
      (mapsFrom context pid devices address found).pageAddresses host state =
        ranges.map PageRange.base ++ if stop < Word.span then [stop] else [] := by
  induction tiles generalizing found state with
  | @none address =>
    obtain ⟨cause, failed⟩ := past within state
    have step : Steps host (mapsFrom context pid devices address found) state address _ _ :=
      mapsFrom_of_error (Prod.ext failed rfl)
    rw [if_neg (begun rfl)] at step
    rw [step.1, step.2, if_pos within]
    exact ⟨congrArg Except.ok (List.append_nil _).symm, rfl⟩
  | @next range others stop positive behind ih =>
    obtain ⟨here, toldOthers⟩ := List.forall_mem_cons.mp told
    obtain ⟨name, namedOthers⟩ := List.forall_mem_cons.mp named
    obtain ⟨later, mapped⟩ := run_mapOf (name ((host (.windows (.pages pid range.base))).run state).2)
    have step : Steps host (mapsFrom context pid devices range.base found) state range.base _ later :=
      mapsFrom_of_ok (Prod.ext (here state) rfl) mapped
    have order : found.reverse ++ (range :: others).filterMap (fileMap? devices names) =
        ((fileMap? devices names range).toList ++ found).reverse ++ others.filterMap (fileMap? devices names) := by
      rw [List.filterMap_cons]
      cases fileMap? devices names range <;> simp
    rw [step.1, step.2, order, List.map_cons, List.cons_append]
    rcases Nat.lt_or_ge (range.base + range.size) Word.span with onward | last
    · rw [if_pos ⟨Nat.lt_add_of_pos_right positive, onward⟩]
      have farther : others = [] → range.base + range.size ≠ 0 := fun _ => Nat.ne_of_gt (Nat.add_pos_right _ positive)
      exact (ih bounded onward farther toldOthers namedOthers past).imp_right (congrArg (range.base :: ·))
    · have full := behind.le
      obtain rfl : stop = range.base + range.size := by omega
      obtain rfl : others = [] := behind.eq_nil
      rw [if_neg fun onward => Nat.not_lt.mpr last onward.2, if_neg (Nat.not_lt.mpr last)]
      exact ⟨congrArg Except.ok (List.append_nil _).symm, rfl⟩

/-- The walk ends, whatever it is told. -/
theorem returns_mapsFrom : (mapsFrom context pid devices address found).Returns := by
  induction left : Word.span - address using Nat.strongRecOn generalizing address found with
  | ind n ih =>
    rw [Query.Returns, mapsFrom_run]
    rintro (cause | range)
    · dsimp only
      split
      · exact Query.Returns.fail (live context) pid _ cause
      · exact nofun
    · refine Program.Ends.after fun map => ?_
      dsimp only
      split
      case isTrue onward => exact ih _ (by omega) rfl
      case isFalse => exact nofun

end walk

/-- Free addresses, a program, a file without a name, and memory without a file. -/
def fourRanges : List PageRange :=
  [{ base := 0, size := 0x10000, state := 0x10000 },
    { base := 0x10000, size := 0x2000, state := 0x1000, type := 0x1000000, protection := 0x20 },
    { base := 0x12000, size := 0x1000, state := 0x1000, type := 0x40000, protection := 0x02 },
    { base := 0x13000, size := 0x1000, state := 0x1000, type := 0x20000, protection := 0x04 }]

def programName (base : Nat) : Except IoError (List UInt16) :=
  if base = 0x10000 then .ok (Utf16.encode "\\Device\\Disk1\\a.dll".toList) else .error (.number 1)

def fourRangesHost : (c : Call) → StateM Unit c.Answer
  | .windows (.openProcess ..) => return .ok ()
  | .windows (.exitCode _) => return .ok stillActive
  | .windows (.driveStrings _) => return .ok (Utf16.encode "C:\\".toList ++ [0, 0])
  | .windows (.driveDevices ..) => return .ok (Utf16.encode "\\Device\\Disk1".toList ++ [0, 0])
  | .windows (.pages _ address) =>
    return match fourRanges.find? fun range => range.base ≤ address && address < range.base + range.size with
      | some range => .ok range
      | none => .error (.number invalidParameter)
  | .windows (.mappedFile _ base _) => return programName base
  | c => return Host.reply {} c

theorem divides_fourRanges : Divides fourRangesHost 42 programName fourRanges 0x14000 where
  tiles := by decide
  nonempty := by decide
  bounded := by decide
  told := by
    simp only [fourRanges, List.forall_mem_cons]
    exact ⟨fun _ => rfl, fun _ => rfl, fun _ => rfl, fun _ => rfl, nofun⟩
  named _ _ _ := rfl
  past _ _ := ⟨_, rfl⟩

end Windows
end HostProbe
