import HostProbe.Footprint.Reader
import HostProbe.Proofs.Footprint.Readings

/-! A reader of footprints that is asked again and again, on a system that may behave in another way each time. No
answer depends on how the calls before it went. -/
namespace HostProbe.Footprint

open Scanner (linesOf)

variable {σ : Type}

/-! ### Runs of calls -/

inductive Wish
  | footprint
  | resident
  deriving Repr, DecidableEq, Inhabited

inductive Reply
  | footprint (outcome : FootprintOutcome Footprint)
  | resident (outcome : FootprintOutcome (Option Nat))
  deriving Repr, DecidableEq

def Wish.reply : Wish → FootprintOutcome Footprint → Reply
  | footprint, outcome => .footprint outcome
  | resident, outcome => .resident ((Reader.orNone outcome).map fun f => f.map Footprint.rss)

def Reader.ask (r : Reader) : Wish → Program (Reply × Reader)
  | .footprint => do
    let (outcome, r) ← r.footprint
    return (.footprint outcome, r)
  | .resident => do
    let (outcome, r) ← r.resident
    return (.resident outcome, r)

structure Visit (σ : Type) where
  wish : Wish
  answer : (c : Call) → StateM σ c.Answer

namespace Visit

def run (v : Visit σ) (r : Reader) (state : σ) : (Reply × Reader) × σ := ((r.ask v.wish).runWith v.answer).run state

end Visit

def Reader.replies : Reader → σ → List (Visit σ) → List Reply
  | _, _, [] => []
  | r, state, v :: visits =>
    let ((reply, r), state) := v.run r state
    reply :: replies r state visits

def Source.renewed : Source → Source
  | rollup _ => rollup {}
  | mappings _ => mappings {}
  | pageCounts => pageCounts

def Querier.renewed (q : Querier) : Querier := { q with source := q.source.renewed }

def Querier.freshReplies (q : Querier) : σ → List (Visit σ) → List Reply
  | _, [] => []
  | state, v :: visits =>
    let ((reply, _), state) := v.run (.files q.renewed) state
    reply :: q.freshReplies state visits

/-! ### One call -/

theorem ask_files (q : Querier) (w : Wish) :
    (Reader.files q).ask w = q.footprint >>= fun out => pure (w.reply out.1, .files out.2) := by
  cases w with
  | footprint => simp only [Reader.ask, Reader.footprint, bind_assoc, pure_bind, Wish.reply]
  | resident => simp only [Reader.ask, Reader.resident, bind_assoc, pure_bind, Wish.reply]

variable (answer : (c : Call) → StateM σ c.Answer) (state : σ)

/-- Opening a file drops whatever the scanner held, and where it fails nothing of that is looked at. -/
private theorem scan_again (path : String) (s : Scanner) (kept : Scanner → Querier) :
    ∃ outcome next fresh after,
      ((Querier.scan path s >>= fun out => pure (out.1, kept out.2)).runWith answer).run state =
          ((outcome, kept next), after) ∧
        ((Querier.scan path {} >>= fun out => pure (out.1, kept out.2)).runWith answer).run state =
          ((outcome, kept fresh), after) := by
  simp only [Querier.scan, Program.runWith_bind, StateT.run_bind]
  obtain ⟨opened, middle⟩ := ((Ask.file (.openFile path)).runWith answer).run state
  cases opened with
  | error cause => exact ⟨_, _, _, _, rfl, rfl⟩
  | ok => exact ⟨_, _, _, _, rfl, rfl⟩

/-- A reader answers as a new one does, changes the system in the same way, and keeps to its choice of file. -/
private theorem footprint_again (q : Querier) :
    ∃ outcome next fresh after,
      (q.footprint.runWith answer).run state = ((outcome, next), after) ∧ next.renewed = q.renewed ∧
        (q.renewed.footprint.runWith answer).run state = ((outcome, fresh), after) := by
  obtain ⟨base, source, pageSize⟩ := q
  cases source with
  | rollup s =>
    obtain ⟨outcome, next, fresh, after, again, first⟩ :=
      scan_again answer state (Path.join base "smaps_rollup") s fun s => ⟨base, .rollup s, pageSize⟩
    exact ⟨outcome, _, _, after, again, rfl, first⟩
  | mappings s =>
    obtain ⟨outcome, next, fresh, after, again, first⟩ :=
      scan_again answer state (Path.join base "smaps") s fun s => ⟨base, .mappings s, pageSize⟩
    exact ⟨outcome, _, _, after, again, rfl, first⟩
  | pageCounts =>
    simp only [Querier.footprint, Querier.renewed, Source.renewed, Program.runWith_bind, StateT.run_bind]
    exact ⟨_, _, _, _, rfl, rfl, rfl⟩

/-! ### Runs -/

/-- A call says the same on a reader that was used before as on one that starts anew. -/
private theorem run_again (v : Visit σ) (q : Querier) :
    ∃ reply next fresh after, v.run (.files q) state = ((reply, .files next), after) ∧ next.renewed = q.renewed ∧
      v.run (.files q.renewed) state = ((reply, fresh), after) := by
  obtain ⟨outcome, next, fresh, after, again, same, first⟩ := footprint_again v.answer state q
  refine ⟨v.wish.reply outcome, next, .files fresh, after, ?_, same, ?_⟩
  · simp only [Visit.run, ask_files, Program.runWith_bind, StateT.run_bind, again]
    rfl
  · simp only [Visit.run, ask_files, Program.runWith_bind, StateT.run_bind, first]
    rfl

private theorem freshReplies_congr {p q : Querier} (same : p.renewed = q.renewed) (visits : List (Visit σ)) :
    p.freshReplies state visits = q.freshReplies state visits := by
  induction visits generalizing state with
  | nil => rfl
  | cons v visits ih => simp only [Querier.freshReplies, same, ih]

/-- A reader that is kept answers like a new one at each call. -/
private theorem replies_eq_freshReplies (q : Querier) (visits : List (Visit σ)) :
    (Reader.files q).replies state visits = q.freshReplies state visits := by
  -- The querier is another after each call, with the same choice of file.
  induction visits generalizing q state with
  | nil => rfl
  | cons v visits ih =>
    obtain ⟨reply, next, fresh, after, again, same, first⟩ := run_again state v q
    have others : (Reader.files next).replies after visits = q.freshReplies after visits :=
      (ih after next).trans (freshReplies_congr after same visits)
    simp only [Reader.replies, again, Querier.freshReplies, first, others]

/-! ### Runs told by what is found -/

def Querier.path? (q : Querier) : Option String :=
  match q.source with
  | .rollup _ => some q.rollupPath
  | .mappings _ => some q.mappingsPath
  | .pageCounts => none

inductive Found
  | refused (cause : IoError)
  /-- A file that is read to its end, or to where it fails. -/
  | opened (content : Bytes) (fault : Option IoError)
  deriving Repr

namespace Found

def footprint : Found → FootprintOutcome Footprint
  | refused cause => .error (.report cause)
  | opened content fault => (sums fault content {}).bind Totals.footprint

/-- The system behaves as it does with such a file, whatever it remembers. Reads may be cut in any way. -/
def At (answer : (c : Call) → StateM σ c.Answer) (path : String) : Found → Prop
  | refused cause => (Ask.file (.openFile path)).Gives answer (· = .error cause)
  | opened content fault =>
    (Ask.file (.openFile path)).Gives answer (· = .ok ()) ∧
      Scanner.Feeds fault content (fun offset count => answer (.file (.readAt path offset count))) ∧
      (linesOf content).length < lineLimit

end Found

/-- A scan says of the file what it holds now, in whatever state the scanner was left. -/
theorem gives_scan {answer : (c : Call) → StateM σ c.Answer} {path : String} {found : Found}
    (there : found.At answer path) (s : Scanner) :
    (Querier.scan path s).Gives answer fun out => out.1 = found.footprint := by
  cases found with
  | refused cause =>
    have refuses : (Ask.file (.openFile path)).Gives answer (· = .error cause) := there
    refine .bind refuses ?_
    rintro _ rfl
    exact .pure rfl
  | opened content fault =>
    obtain ⟨opens, feeds, few⟩ := there
    refine .bind opens ?_
    rintro _ rfl
    refine .bind (gives_sums feeds (Scanner.steady_new fault content) few) ?_
    rintro ⟨outcome, last⟩ rfl
    exact .pure rfl

/-- A querier says the same. -/
theorem gives_found {answer : (c : Call) → StateM σ c.Answer} {q : Querier} {path : String}
    (chosen : q.path? = some path) {found : Found} (there : found.At answer path) :
    q.footprint.Gives answer fun out => out.1 = found.footprint := by
  obtain ⟨base, source, pageSize⟩ := q
  cases source with
  | rollup s =>
    obtain rfl : Path.join base "smaps_rollup" = path := Option.some.inj chosen
    exact .bind (gives_scan there s) fun out given => .pure given
  | mappings s =>
    obtain rfl : Path.join base "smaps" = path := Option.some.inj chosen
    exact .bind (gives_scan there s) fun out given => .pure given
  | pageCounts => cases chosen

theorem path_renewed (q : Querier) : q.renewed.path? = q.path? := by
  obtain ⟨base, source, pageSize⟩ := q
  cases source <;> rfl

/-- Each call is answered by what it finds at the path. -/
private theorem freshReplies_found {q : Querier} {path : String} (chosen : q.path? = some path)
    {visits : List (Visit σ)} {founds : List Found}
    (there : List.Forall₂ (fun v found => found.At v.answer path) visits founds) :
    q.freshReplies state visits = List.zipWith (fun v found => v.wish.reply found.footprint) visits founds := by
  induction there generalizing state with
  | nil => rfl
  | @cons v found visits founds here _ ih =>
    have given := gives_found ((path_renewed q).trans chosen) here state
    have first : (v.run (.files q.renewed) state).1.1 = v.wish.reply found.footprint := by
      rw [← given, Visit.run, ask_files, Program.runWith_bind, StateT.run_bind]
      rfl
    simp only [Querier.freshReplies, List.zipWith_cons_cons, first, ih]

/-- A reader that is kept answers each call as a new one with its choice of file would, on any system and however
the calls before went. Each answer is told by what its own call finds at the path of the file. -/
theorem replies_renewed (q : Querier) (visits : List (Visit σ)) :
    (Reader.files q).replies state visits = q.freshReplies state visits ∧
      ∀ path, q.path? = some path → ∀ founds : List Found,
        List.Forall₂ (fun v found => found.At v.answer path) visits founds →
          (Reader.files q).replies state visits =
            List.zipWith (fun v found => v.wish.reply found.footprint) visits founds := by
  refine ⟨replies_eq_freshReplies state q visits, fun path chosen founds there => ?_⟩
  rw [replies_eq_freshReplies, freshReplies_found state chosen there]

/-- A host that serves what is to be found at every path, byte by byte. -/
def Found.host (found : Found) : (c : Call) → StateM Unit c.Answer
  | .file (.openFile _) =>
    match found with
    | refused cause => pure (.error cause)
    | opened _ _ => pure (.ok ())
  | .file (.readAt _ offset count) =>
    match found with
    | refused cause => pure (.error cause)
    | opened content none => Scanner.bytewise content offset count
    | opened content (some cause) =>
      if offset < content.length then Scanner.bytewise content offset count else pure (.error cause)
  | c => pure (({} : Host).reply c)

theorem feeds_host (content : Bytes) (fault : Option IoError) (path : String) :
    Scanner.Feeds fault content fun offset count =>
      (Found.opened content fault).host (.file (.readAt path offset count)) := by
  cases fault with
  | none => exact (Scanner.delivers_bytewise content).feeds
  | some cause =>
    intro offset count state within wanted
    by_cases more : offset < content.length
    · refine .inr ⟨.inl more, 1, Nat.one_pos, wanted, ?_⟩
      simp only [Found.host, if_pos more]
      rfl
    · refine .inl ⟨Nat.le_antisymm within (Nat.le_of_not_lt more), cause, rfl, ?_⟩
      simp only [Found.host, if_neg more]
      rfl

theorem at_refused (cause : IoError) (path : String) : (Found.refused cause).At (Found.refused cause).host path := by
  have refuses : (Ask.file (.openFile path)).Gives (Found.refused cause).host (· = .error cause) := .call fun _ => rfl
  exact refuses

theorem at_opened {content : Bytes} (few : (linesOf content).length < lineLimit) (fault : Option IoError)
    (path : String) : (Found.opened content fault).At (Found.opened content fault).host path :=
  ⟨.call fun _ => rfl, feeds_host content fault path, few⟩

/-- Files whose lines break off, that are gone, that are complete, and that have no resident size. -/
def unsteadyFiles : List Found :=
  [.opened (Utf8.encode "Rss: 4 kB\nRss: 1".toList) (some (.number ErrorNumber.noProcess)),
    .refused (.number ErrorNumber.noEntry),
    .opened (Utf8.encode "Rss: 1 kB\nSwap: 2 kB".toList) none,
    .opened (Utf8.encode "Pss: 3 kB\n".toList) none]

def unsteadyVisits : List (Visit Unit) :=
  List.zipWith (fun wish found => { wish, answer := found.host }) [.footprint, .resident, .footprint, .footprint]
    unsteadyFiles

/-- Four calls, each of which finds another file. -/
theorem replies_renewed_unsteadyVisits :
    Querier.path? ⟨"/proc/1", .mappings {}, 4096⟩ = some "/proc/1/smaps" ∧
      List.Forall₂ (fun v found => found.At v.answer "/proc/1/smaps") unsteadyVisits unsteadyFiles ∧
      (Reader.files ⟨"/proc/1", .mappings {}, 4096⟩).replies () unsteadyVisits =
        [.footprint (.error (.report (.number ErrorNumber.noProcess))), .resident (.ok none),
          .footprint (.ok { rss := 1024, pss := some 0, uss := some 0, swap := some 2048 }),
          .footprint (.error (.report (.custom .invalidData "no Rss entries in smaps")))] := by
  have chosen : Querier.path? ⟨"/proc/1", .mappings {}, 4096⟩ = some "/proc/1/smaps" := by decide
  have there : List.Forall₂ (fun v found => found.At v.answer "/proc/1/smaps") unsteadyVisits unsteadyFiles :=
    .cons (at_opened (by decide) _ _) <| .cons (at_refused _ _) <| .cons (at_opened (by decide) _ _) <|
      .cons (at_opened (by decide) _ _) .nil
  exact ⟨chosen, there, ((replies_renewed () _ _).2 _ chosen _ there).trans (by decide)⟩

end HostProbe.Footprint
