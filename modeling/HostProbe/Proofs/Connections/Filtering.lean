import HostProbe.Host
import HostProbe.Proofs.Connections.Listing

/-! Filtering commutes with listing: what a system lists under a filter is what the filter selects of everything it
lists, although tables that the filter does not want are never read. -/
namespace HostProbe

/-! ### Filters -/

theorem bitsContain_full (part : UInt8) : bitsContain 255 part = true := by
  have full : (255 : UInt8) = -1 := rfl
  simp [bitsContain, full]

/-- A set that contains a part meets everything that contains the part, unless the part is empty. -/
theorem bitsMeet_of_contain {set whole part : UInt8} (nonempty : part ≠ 0) (within : bitsContain whole part = true)
    (contained : bitsContain set part = true) : bitsMeet set whole = true := by
  simp only [bitsContain, bitsMeet, beq_iff_eq, bne_iff_ne, Bool.or_eq_true] at *
  left
  intro disjoint
  apply nonempty
  rw [← contained, ← within, ← UInt8.and_assoc, disjoint, UInt8.zero_and]

/-- A set meets a single member exactly when it contains it. -/
theorem bitsMeet_eq_bitsContain (set : UInt8) {bit : UInt8} (single : bit ∈ [1, 2, 4]) :
    bitsMeet set bit = bitsContain set bit := by
  have every : ∀ n : Fin 256, ∀ bit ∈ [1, 2, 4], bitsMeet (UInt8.ofFin n) bit = bitsContain (UInt8.ofFin n) bit := by
    decide +kernel
  exact every set.toFin bit single

namespace ConnectionFilter

@[simp] theorem all_selects (family : FamilySet) (kind : SocketTypeSet) : all.selects family kind = true := by
  simp [selects, all, FamilySet.all, SocketTypeSet.all, FamilySet.contains, SocketTypeSet.contains, bitsContain_full]

/-- Of a single family and type, a filter selects what it wants. -/
theorem wants_eq_selects (f : ConnectionFilter) {family : FamilySet} {kind : SocketTypeSet}
    (oneFamily : family.bits ∈ [1, 2, 4]) (oneKind : kind.bits ∈ [1, 2, 4]) :
    f.wants family kind = f.selects family kind := by
  rw [wants, selects, FamilySet.meets, SocketTypeSet.meets, bitsMeet_eq_bitsContain _ oneFamily,
    bitsMeet_eq_bitsContain _ oneKind]
  rfl

/-- A filter that does not want a table selects nothing that may be listed in it. -/
theorem selects_eq_false {f : ConnectionFilter} {family families : FamilySet} {kind kinds : SocketTypeSet}
    (unwanted : f.wants families kinds = false) (someFamily : family.bits ≠ 0) (someKind : kind.bits ≠ 0)
    (inFamilies : families.contains family = true) (inKinds : kinds.contains kind = true) :
    f.selects family kind = false := by
  apply Bool.eq_false_iff.mpr
  intro selected
  rw [selects, Bool.and_eq_true] at selected
  have wanted : f.wants families kinds = true := by
    rw [wants, Bool.and_eq_true]
    exact ⟨bitsMeet_of_contain someFamily inFamilies selected.1, bitsMeet_of_contain someKind inKinds selected.2⟩
  rw [unwanted] at wanted
  cases wanted

end ConnectionFilter

/-! ### Narrowing -/

/-- Listing under a filter gives what the filter selects of everything, where the kind of an entry can be told. -/
def Narrows {α : Type} (answer : (c : Call) → c.Answer) (kindOf : α → FamilySet × SocketTypeSet)
    (list : ConnectionFilter → Query (List α)) : Prop :=
  ∀ all, (list .all).result answer = .ok all →
    ∀ f, (list f).result answer = .ok (all.filter fun a => f.selects (kindOf a).1 (kindOf a).2)

def Connection.sort (c : Connection) : FamilySet × SocketTypeSet := (c.family, c.kind)

section narrowing

variable {α β : Type} {answer : (c : Call) → c.Answer} {kindOf : α → FamilySet × SocketTypeSet}

/-- A pure step behind a query that does not depend on the filter. -/
theorem Narrows.of_bind {query : Query β} {list : ConnectionFilter → β → Query (List α)}
    (narrows : ∀ b, query.result answer = .ok b → Narrows answer kindOf fun f => list f b) :
    Narrows answer kindOf fun f => query >>= list f := by
  intro all listed f
  obtain ⟨b, asked, listed⟩ := Query.result_bind_ok answer listed
  rw [Query.result_bind_of_ok answer asked]
  exact narrows b asked all listed f

theorem Narrows.of_pure {list : ConnectionFilter → List α}
    (narrows : ∀ f, list f = (list .all).filter fun a => f.selects (kindOf a).1 (kindOf a).2) :
    Narrows answer kindOf fun f => pure (list f) := by
  intro all listed f
  cases listed
  rw [Query.result_pure, narrows f]

/-- A table that is skipped unless wanted: a wanted one narrows, and nothing is selected of one that is not. -/
theorem Narrows.of_wanted {wanted : ConnectionFilter → Bool} {list : ConnectionFilter → Query (List α)}
    (whole : wanted .all = true) (h : ∀ all, (list .all).result answer = .ok all → ∀ f,
      (wanted f = true → (list f).result answer = .ok (all.filter fun a => f.selects (kindOf a).1 (kindOf a).2)) ∧
      (wanted f = false → ∀ a ∈ all, f.selects (kindOf a).1 (kindOf a).2 = false)) :
    Narrows answer kindOf fun f => if (!wanted f) = true then pure [] else list f := by
  intro all listed f
  simp only [whole, Bool.not_true, Bool.false_eq_true, if_false] at listed ⊢
  obtain ⟨read, skipped⟩ := h all listed f
  cases useful : wanted f with
  | true => simpa using read useful
  | false =>
    have nothing : all.filter (fun a => f.selects (kindOf a).1 (kindOf a).2) = [] := by
      rw [List.filter_eq_nil_iff]
      intro a member
      rw [skipped useful a member]
      exact Bool.false_ne_true
    rw [nothing]
    rfl

/-- A table of one family and type, which is skipped unless they are selected. -/
theorem Narrows.of_table {family : FamilySet} {kind : SocketTypeSet} {query : Query (List α)}
    (uniform : ∀ all, query.result answer = .ok all → ∀ a ∈ all, kindOf a = (family, kind)) :
    Narrows answer kindOf fun f => if (!f.selects family kind) = true then pure [] else query := by
  apply Narrows.of_wanted (ConnectionFilter.all_selects family kind)
  intro all listed f
  have sorts := uniform all listed
  constructor
  · intro wanted
    rw [listed, List.filter_eq_self.mpr]
    intro a member
    rw [sorts a member]
    exact wanted
  · intro unwanted a member
    rw [sorts a member]
    exact unwanted

/-- Lists that narrow one by one narrow together. -/
theorem Narrows.mapM {tables : List β} {list : ConnectionFilter → β → Query (List α)}
    (h : ∀ t ∈ tables, Narrows answer kindOf fun f => list f t) {found : List (List α)}
    (listed : (tables.mapM (list .all)).result answer = .ok found) (f : ConnectionFilter) :
    (tables.mapM (list f)).result answer =
      .ok (found.map fun all => all.filter fun a => f.selects (kindOf a).1 (kindOf a).2) := by
  induction tables generalizing found with
  | nil =>
    cases listed
    rfl
  | cons t tables ih =>
    rw [List.mapM_cons] at listed ⊢
    obtain ⟨first, here, listed⟩ := Query.result_bind_ok answer listed
    obtain ⟨rest, there, listed⟩ := Query.result_bind_ok answer listed
    cases listed
    have here' := h t List.mem_cons_self first here f
    have there' := ih (fun t ht => h t (List.mem_cons_of_mem _ ht)) there
    rw [Query.result_bind_of_ok answer here', Query.result_bind_of_ok answer there', Query.result_pure, List.map_cons]

/-- Filtering what comes of a list, when each element decides for all that comes of it. -/
theorem filter_flatMap_eq {g : β → List α} {selected : α → Bool} {chosen : β → Bool}
    (h : ∀ b, ∀ a ∈ g b, selected a = chosen b) (bs : List β) :
    (bs.flatMap g).filter selected = (bs.filter chosen).flatMap g := by
  induction bs with
  | nil => rfl
  | cons b bs ih =>
    rw [List.flatMap_cons, List.filter_append, ih, List.filter_cons]
    split
    · next here =>
      rw [List.filter_eq_self.mpr fun a member => (h b a member).trans here, List.flatMap_cons]
    · next here =>
      have none : (g b).filter selected = [] := by
        rw [List.filter_eq_nil_iff]
        intro a member
        rw [h b a member]
        exact here
      rw [none, List.nil_append]

/-- What is found among the chosen elements is what is found among all, if it is chosen: all that would be found are
chosen alike. -/
theorem find?_filter_eq {found chosen : α → Bool} {as : List α}
    (alike : ∀ a ∈ as, ∀ b ∈ as, found a = true → found b = true → chosen a = chosen b) :
    (as.filter chosen).find? found = (as.find? found).filter chosen := by
  induction as with
  | nil => rfl
  | cons a as ih =>
    have ih := ih fun b hb c hc => alike b (List.mem_cons_of_mem _ hb) c (List.mem_cons_of_mem _ hc)
    cases here : found a with
    | false =>
      rw [List.find?_cons_of_neg (by simp [here]), ← ih, List.filter_cons]
      split
      · exact List.find?_cons_of_neg (by simp [here])
      · rfl
    | true =>
      rw [List.find?_cons_of_pos here, List.filter_cons]
      cases selected : chosen a with
      | true => rw [if_pos rfl, List.find?_cons_of_pos here, Option.filter_some_pos selected]
      | false =>
        rw [if_neg Bool.false_ne_true, Option.filter_some_neg selected, List.find?_eq_none]
        intro b member there
        obtain ⟨within, wanted⟩ := List.mem_filter.mp member
        have same := alike a List.mem_cons_self b (List.mem_cons_of_mem _ within) here there
        rw [selected, wanted] at same
        cases same

end narrowing

/-! ### Linux -/

namespace Linux

variable {answer : (c : Call) → c.Answer}

private theorem unixSocketType?_bits {field : Text} {kind : SocketTypeSet}
    (h : Procfs.unixSocketType? field = some kind) : kind.bits ≠ 0 := by
  rw [Procfs.unixSocketType?] at h
  split at h <;> cases h <;> decide

theorem parseUnixLine_bits {line : Text} {s : Procfs.UnixSocket}
    (h : Procfs.parseUnixLine line = .ok (some s)) : s.kind.bits ≠ 0 := by
  rw [Procfs.parseUnixLine] at h
  split at h
  · cases h
  split at h
  · cases h
  · rename_i kind typed
    dsimp only at h
    split at h
    · cases h
    · cases h
      exact unixSocketType?_bits typed

/-- Every socket of the local table has a type. -/
theorem parseNetUnix_bits {text : Text} {sockets : List Procfs.UnixSocket}
    (h : Procfs.parseNetUnix text = .ok sockets) {s : Procfs.UnixSocket} (member : s ∈ sockets) : s.kind.bits ≠ 0 := by
  rw [Procfs.parseNetUnix] at h
  cases lines : (text.lines.drop 1).mapM Procfs.parseUnixLine with
  | error fault =>
    rw [lines] at h
    cases h
  | ok found =>
    rw [lines] at h
    cases h
    obtain ⟨s', within, rfl⟩ := List.mem_filterMap.mp member
    obtain ⟨line, -, parsed⟩ := exists_of_mem_mapM lines within
    exact parseUnixLine_bits parsed

/-- Of an internet table the filter keeps what it selects. -/
private theorem internetSockets_narrows (p : Probe) (table : String × FamilySet × SocketTypeSet) :
    Narrows answer (fun s : Nat × Connection => s.2.sort) fun f => p.internetSockets f table := by
  obtain ⟨name, family, kind⟩ := table
  apply Narrows.of_table
  intro all listed
  obtain ⟨text, -, listed⟩ := Query.result_bind_ok answer listed
  cases text with
  | none =>
    cases listed
    simp
  | some text =>
    obtain ⟨rows, -, listed⟩ := Query.result_bind_ok answer listed
    cases listed
    intro s member
    obtain ⟨row, -, rfl⟩ := List.mem_map.mp member
    rfl

/-- So it does of the local table. -/
private theorem localSockets_narrows (p : Probe) :
    Narrows answer (fun s : Nat × Connection => s.2.sort) fun f => p.localSockets f := by
  apply Narrows.of_wanted (by decide)
  intro all listed f
  obtain ⟨text, read, listed⟩ := Query.result_bind_ok answer listed
  rw [Query.result_bind_of_ok answer read]
  cases text with
  | none =>
    cases listed
    exact ⟨fun _ => rfl, by simp⟩
  | some text =>
    obtain ⟨sockets, parsed, listed⟩ := Query.result_bind_ok answer listed
    cases listed
    simp only [Query.result_bind_of_ok answer parsed, Query.result_pure]
    constructor
    · intro wanted
      simp [List.filter_map, Function.comp_def, localConnection, Connection.sort]
    · intro unwanted s member
      obtain ⟨row, within, rfl⟩ := List.mem_map.mp member
      have typed : row.kind.bits ≠ 0 := parseNetUnix_bits parsed (List.mem_filter.mp within).1
      have unselected : f.selects .unix row.kind = false :=
        ConnectionFilter.selects_eq_false unwanted (by decide) typed (by decide) (bitsContain_full _)
      exact unselected

/-- A socket's connections are all of its family and type. -/
private theorem sort_of_mem_connectionsOf {holders : List SocketHolder} {systemWide : Bool} {inode : Nat}
    {template c : Connection} (member : c ∈ connectionsOf holders systemWide inode template) :
    c.sort = template.sort := by
  rw [connectionsOf] at member
  split at member
  · split at member
    · rw [List.mem_singleton.mp member]
    · cases member
  · obtain ⟨h, -, rfl⟩ := List.mem_map.mp member
    rfl

/-- Connections under a filter are those of all that it selects. -/
theorem connections_narrows (p : Probe) (pid : Option Pid) :
    Narrows answer Connection.sort fun f => p.connections f pid := by
  apply Narrows.of_bind
  intro holders held all listed f
  obtain ⟨internet, tables, listed⟩ := Query.result_bind_ok answer listed
  obtain ⟨locals, localTable, listed⟩ := Query.result_bind_ok answer listed
  cases listed
  have tables' := Narrows.mapM (fun t _ => internetSockets_narrows p t) tables f
  have locals' := localSockets_narrows p locals localTable f
  rw [Query.result_bind_of_ok answer tables', Query.result_bind_of_ok answer locals', Query.result_pure,
    ← List.filter_flatten, ← List.filter_append]
  congr 1
  symm
  apply filter_flatMap_eq
  intro s c member
  rw [sort_of_mem_connectionsOf member]

end Linux

/-! ### Systems that ask one process after the other -/

section processes

variable {answer : (c : Call) → c.Answer} {f : ConnectionFilter}

/-- What is held under a filter, when the filter leaves the failures of every process as they are. -/
theorem connectionsOfAll_narrows {pids : Query (List Pid)} {per per' : Pid → Query (List Connection)}
    (h : ∀ pid, (per' pid).result answer =
      ((per pid).result answer).map fun cs => cs.filter fun c => f.selects c.sort.1 c.sort.2)
    {all : List Connection} (listed : (BSD.connectionsOfAll pids per).result answer = .ok all) :
    (BSD.connectionsOfAll pids per').result answer = .ok (all.filter fun c => f.selects c.sort.1 c.sort.2) := by
  obtain ⟨ids, identified, spared, rfl⟩ := (connectionsOfAll_eq_ok_iff answer pids per all).mp listed
  refine (connectionsOfAll_eq_ok_iff answer pids per' _).mpr ⟨ids, identified, ?_, ?_⟩
  · intro pid member aborted
    apply spared pid member
    rw [h pid] at aborted
    cases listed : (per pid).result answer with
    | ok cs =>
      rw [listed] at aborted
      cases aborted
    | error fault =>
      rw [listed] at aborted
      cases aborted
      rfl
  · rw [List.filter_flatMap]
    congr 1
    funext pid
    rw [h pid]
    cases (per pid).result answer <;> rfl

/-- The same where every process has a table of descriptors, and the filter matters only to what becomes of it. -/
theorem connectionsOfAll_narrows_of_tables {β : Type} {pids : Query (List Pid)} {table : Pid → Query β}
    {entries entries' : β → Pid → List Connection}
    (h : ∀ b pid, entries' b pid = (entries b pid).filter fun c => f.selects c.sort.1 c.sort.2)
    {all : List Connection}
    (listed : (BSD.connectionsOfAll pids fun pid => do return entries (← table pid) pid).result answer = .ok all) :
    (BSD.connectionsOfAll pids fun pid => do return entries' (← table pid) pid).result answer =
      .ok (all.filter fun c => f.selects c.sort.1 c.sort.2) := by
  refine connectionsOfAll_narrows (fun pid => ?_) listed
  rw [Query.result_bind_pure, Query.result_bind_pure]
  cases (table pid).result answer with
  | error fault => rfl
  | ok b => exact congrArg Except.ok (h b pid)

end processes

/-! ### FreeBSD -/

namespace FreeBSD

variable {answer : (c : Call) → c.Answer} {f : ConnectionFilter} {states states' : List (Nat × Int)}

private theorem familyOf?_cases {number : Int} {family : FamilySet} (h : BSD.familyOf? inet6 number = some family) :
    family = .inet ∨ family = .inet6 ∨ family = .unix := by
  rw [BSD.familyOf?] at h
  split at h
  · exact .inl (Option.some.inj h).symm
  split at h
  · exact .inr (.inl (Option.some.inj h).symm)
  split at h
  · exact .inr (.inr (Option.some.inj h).symm)
  · cases h

/-- No internet stream is selected by a filter that wants none. -/
private theorem not_stream_of_unwanted (unwanted : f.wants (.union .inet .inet6) .stream = false) {number : Int}
    {family : FamilySet} {kind : SocketTypeSet} (known : BSD.familyOf? inet6 number = some family)
    (selected : f.selects family kind = true) : ¬(kind = .stream ∧ family ≠ .unix) := by
  rintro ⟨rfl, notLocal⟩
  have unselected : f.selects family .stream = false := by
    obtain rfl | rfl | rfl := familyOf?_cases known
    · exact ConnectionFilter.selects_eq_false unwanted (by decide) (by decide) (by decide) (by decide)
    · exact ConnectionFilter.selects_eq_false unwanted (by decide) (by decide) (by decide) (by decide)
    · exact absurd rfl notLocal
  rw [unselected] at selected
  cases selected

/-- States of connections may be left out when no internet stream is wanted: no other status tells them. -/
private theorem connectionOf?_narrows (enough : states' = states ∨ f.wants (.union .inet .inet6) .stream = false)
    (pid : Pid) (r : FileRecord) : connectionOf? pid f states' r =
      (connectionOf? pid .all states r).filter fun c => f.selects c.sort.1 c.sort.2 := by
  simp only [connectionOf?, ConnectionFilter.all_selects]
  cases known : BSD.familyOf? inet6 (r.int 36) with
  | none => rfl
  | some family =>
    cases BSD.socketTypeOf? (r.int 40) with
    | none => rfl
    | some kind =>
      cases selected : f.selects family kind with
      | false => simp [Connection.sort, selected, Option.filter_some]
      | true =>
        obtain rfl | unwanted := enough
        · simp [Connection.sort, selected, Option.filter_some]
        · have stateless := not_stream_of_unwanted unwanted known selected
          simp [Connection.sort, selected, Option.filter_some, stateless]

private theorem connectionsIn_narrows (enough : states' = states ∨ f.wants (.union .inet .inet6) .stream = false)
    (bytes : Bytes) (pid : Pid) : connectionsIn bytes pid f states' =
      (connectionsIn bytes pid .all states).filter fun c => f.selects c.sort.1 c.sort.2 := by
  rw [connectionsIn, connectionsIn, List.filter_filterMap]
  congr 1
  funext r
  exact connectionOf?_narrows enough pid r

/-- The states that are read for a filter are all states, or it wants none. -/
private theorem states_narrow (p : BSD.Probe) (read : (FreeBSD.states p .all).result answer = .ok states)
    (f : ConnectionFilter) : ∃ states', (FreeBSD.states p f).result answer = .ok states' ∧
      (states' = states ∨ f.wants (.union .inet .inet6) .stream = false) := by
  cases wanted : f.wants (.union .inet .inet6) .stream with
  | true =>
    have same : FreeBSD.states p f = FreeBSD.states p .all := by
      have whole : ConnectionFilter.all.wants (.union .inet .inet6) .stream = true := by decide
      simp only [FreeBSD.states, wanted, whole]
    exact ⟨states, by rw [same, read], .inl rfl⟩
  | false =>
    have skipped : FreeBSD.states p f = pure [] := by simp [FreeBSD.states, wanted]
    exact ⟨[], by rw [skipped, Query.result_pure], .inr rfl⟩

theorem connections_narrows (p : BSD.Probe) (pid : Pid) :
    Narrows answer Connection.sort fun f => connections p pid f := by
  apply Narrows.of_bind
  intro bytes _ all listed f
  obtain ⟨states, read, listed⟩ := Query.result_bind_ok answer listed
  cases listed
  obtain ⟨states', read', enough⟩ := states_narrow p read f
  rw [Query.result_bind_of_ok answer read', Query.result_pure, connectionsIn_narrows enough]

theorem netConnections_narrows (p : BSD.Probe) :
    Narrows answer Connection.sort fun f => netConnections p f := by
  intro all listed f
  obtain ⟨states, read, listed⟩ := Query.result_bind_ok answer listed
  obtain ⟨states', read', enough⟩ := states_narrow p read f
  have shared : (netConnections p f).result answer = (BSD.connectionsOfAll (pids p) fun pid => do
      return connectionsIn (← fileTable p pid) pid f states').result answer :=
    Query.result_bind_of_ok answer read' _
  exact shared.trans (connectionsOfAll_narrows_of_tables (connectionsIn_narrows enough) listed)

end FreeBSD

/-! ### OpenBSD -/

namespace OpenBSD

variable {answer : (c : Call) → c.Answer}

private theorem connectionsIn_narrows (files : List FileRecord) (pid : Pid) (f : ConnectionFilter) :
    connectionsIn files pid f =
      (connectionsIn files pid .all).filter fun c => f.selects c.sort.1 c.sort.2 := by
  rw [connectionsIn, connectionsIn, List.filter_filterMap]
  congr 1
  funext r
  simp only [connectionOf?, ConnectionFilter.all_selects]
  cases BSD.familyOf? inet6 r.family with
  | none => rfl
  | some family =>
    cases BSD.socketTypeOf? r.kind with
    | none => rfl
    | some kind => cases selected : f.selects family kind <;> simp [Connection.sort, selected, Option.filter_some]

theorem connections_narrows (p : BSD.Probe) (pid : Pid) :
    Narrows answer Connection.sort fun f => connections p pid f := by
  apply Narrows.of_bind
  intro files _
  exact .of_pure fun f => connectionsIn_narrows files pid f

theorem netConnections_narrows (p : BSD.Probe) :
    Narrows answer Connection.sort fun f => BSD.connectionsOfAll (pids p) fun pid => connections p pid f := by
  intro all listed f
  exact connectionsOfAll_narrows_of_tables (fun files pid => connectionsIn_narrows files pid f) listed

end OpenBSD

/-! ### NetBSD -/

namespace NetBSD

variable {answer : (c : Call) → c.Answer}

def KindedSocket.sort (s : KindedSocket) : FamilySet × SocketTypeSet := (s.1, s.2.1)

/-- Every address of a socket is in one list at most. -/
def ListedOnce (sockets : List KindedSocket) : Prop :=
  ∀ s ∈ sockets, ∀ t ∈ sockets, s.2.2.socket = t.2.2.socket → KindedSocket.sort s = KindedSocket.sort t

/-- Lists of sockets that a filter does not want have nothing that it selects. -/
private theorem sockets_narrows (p : BSD.Probe) : Narrows answer KindedSocket.sort fun f => sockets p f := by
  intro all listed f
  obtain ⟨tables, read, listed⟩ := Query.result_bind_ok answer listed
  cases listed
  have narrows : ∀ t ∈ socketTables, Narrows answer KindedSocket.sort fun f => do
      if !f.wants t.2.1 t.2.2 then return []
      let mib ← BSD.Sysctl.resolve t.1
      let table ← BSD.Sysctl.readTable p.context.buffers SocketRecord.layout mib t.1
      return table.map fun s => (t.2.1, t.2.2, s) := by
    intro t member
    have single : t.2.1.bits ∈ [1, 2, 4] ∧ t.2.2.bits ∈ [1, 2, 4] := by
      revert t
      decide
    simp only [ConnectionFilter.wants_eq_selects _ single.1 single.2]
    apply Narrows.of_table
    intro all listed
    obtain ⟨mib, -, listed⟩ := Query.result_bind_ok answer listed
    obtain ⟨table, -, listed⟩ := Query.result_bind_ok answer listed
    cases listed
    intro s member
    obtain ⟨row, -, rfl⟩ := List.mem_map.mp member
    rfl
  have read' := Narrows.mapM narrows read f
  rw [List.filter_flatten]
  exact Query.result_bind_of_ok answer read' _

/-- A socket at one address only is joined in the same way before and after a filter. -/
private theorem joinSockets_narrows {sockets : List KindedSocket} (once : ListedOnce sockets) (f : ConnectionFilter)
    (files : List FileRecord) (pid : Pid) :
    joinSockets files (sockets.filter fun s => f.selects (KindedSocket.sort s).1 (KindedSocket.sort s).2) pid =
      (joinSockets files sockets pid).filter fun c => f.selects c.sort.1 c.sort.2 := by
  rw [joinSockets, joinSockets, List.filter_filterMap]
  congr 1
  funext r
  rw [find?_filter_eq]
  · cases sockets.find? fun s => s.2.2.socket == r.target with
    | none => rfl
    | some s =>
      cases selected : f.selects s.1 s.2.1 <;>
        simp [KindedSocket.sort, Connection.sort, selected, Option.filter_some]
  · intro s hs t ht found found'
    rw [beq_iff_eq] at found found'
    rw [once s hs t ht (found.trans found'.symm)]

/-- Where no address is in two lists, connections under a filter are those of all that it selects. -/
theorem connections_narrows (p : BSD.Probe)
    (once : ∀ all, (sockets p .all).result answer = .ok all → ListedOnce all) (pid : Pid) :
    Narrows answer Connection.sort fun f => connections p pid f := by
  apply Narrows.of_bind
  intro files _ all listed f
  obtain ⟨found, read, listed⟩ := Query.result_bind_ok answer listed
  cases listed
  rw [Query.result_bind_of_ok answer (sockets_narrows p found read f), Query.result_pure,
    joinSockets_narrows (once found read)]

theorem netConnections_narrows (p : BSD.Probe)
    (once : ∀ all, (sockets p .all).result answer = .ok all → ListedOnce all) :
    Narrows answer Connection.sort fun f => netConnections p f := by
  intro all listed f
  obtain ⟨found, read, listed⟩ := Query.result_bind_ok answer listed
  have shared := Query.result_bind_of_ok answer (sockets_narrows p found read f) fun found =>
    BSD.connectionsOfAll (pids p) fun pid => do return joinSockets (← files p pid) found pid
  exact shared.trans (connectionsOfAll_narrows_of_tables (joinSockets_narrows (once found read) f) listed)

end NetBSD

/-! ### macOS -/

namespace MacOS

variable {answer : (c : Call) → c.Answer}

/-- The record of a socket is read, and then selected or not. -/
private theorem connectionOf?_narrows (pid : Pid) (f : ConnectionFilter) (fd : Int) (b : Bytes) :
    connectionOf? pid f fd b =
      (connectionOf? pid .all fd b).filter fun c => f.selects c.sort.1 c.sort.2 := by
  simp only [connectionOf?, ConnectionFilter.all_selects]
  cases BSD.familyOf? inet6 (Bytes.intAt b 184 4) with
  | none => rfl
  | some family =>
    cases BSD.socketTypeOf? (Bytes.intAt b 176 4) with
    | none => rfl
    | some kind =>
      by_cases isLocal : family = .unix
      · subst isLocal
        cases unixEnds b (.ofNumber (Bytes.intAt b 256 4)) <;> cases selected : f.selects .unix kind <;>
          simp [Connection.sort, selected, Option.filter_some]
      · cases ends : inetEnds b family (.ofNumber (Bytes.intAt b 256 4)) <;> cases selected : f.selects family kind <;>
          simp [Connection.sort, selected, isLocal, ends, Option.filter_some]

theorem result_fail {α : Type} (pid : Pid) (call : String) (cause : IoError) :
    Query.result answer (live.fail pid call cause) =
      (.error (.report ((live.classify pid call cause).eval answer)) : Outcome α) := by
  rw [Liveness.fail, Query.result_bind, Query.result_ofProgram]
  rfl

/-- A step behind the reading of a record is a step behind the query for it. -/
private theorem wholeRecord_map {α β : Type} (size : Nat) (read : Bytes → α) (g : α → β) (pid : Pid) (call : String)
    (heard : Except IoError Bytes) : (wholeRecord ⟨size, fun b => g (read b)⟩ pid call heard).result answer =
      ((wholeRecord ⟨size, read⟩ pid call heard).result answer).map g := by
  cases heard with
  | error cause =>
    rw [wholeRecord, wholeRecord, result_fail, result_fail]
    rfl
  | ok bytes =>
    simp only [wholeRecord, RecordLayout.first?]
    cases Bytes.slice? bytes 0 size with
    | some record => rfl
    | none =>
      simp only [Option.map_none, result_fail]
      rfl

theorem descriptor?_map {α β : Type} (size : Nat) (read : Bytes → α) (g : α → β) (pid : Pid) (fd : Int)
    (facet : DescriptorFacet) (call : String) :
    (descriptor? ⟨size, fun b => g (read b)⟩ pid fd facet call).result answer =
      ((descriptor? ⟨size, read⟩ pid fd facet call).result answer).map (Option.map g) := by
  have whole (heard : Except IoError Bytes) :
      (do return some (← wholeRecord ⟨size, fun b => g (read b)⟩ pid call heard) : Query (Option β)).result answer =
        ((do return some (← wholeRecord ⟨size, read⟩ pid call heard) : Query (Option α)).result answer).map
          (Option.map g) := by
    rw [Query.result_bind_pure, Query.result_bind_pure, wholeRecord_map]
    cases (wholeRecord ⟨size, read⟩ pid call heard).result answer <;> rfl
  rw [descriptor?, descriptor?, Query.result_bind, Query.result_bind, Query.result_ofProgram]
  generalize (Ask.mach (.descriptor pid fd facet size)).eval answer = heard
  match heard with
  | .ok bytes => exact whole (.ok bytes)
  | .error (.bare kind) => exact whole (.error (.bare kind))
  | .error (.custom kind detail) => exact whole (.error (.custom kind detail))
  | .error (.number number) =>
    show Query.result answer (ite _ _ _) = Except.map _ (Query.result answer (ite _ _ _))
    split
    · rfl
    · rw [result_fail, result_fail]
      rfl

/-- The connection of a descriptor's socket; closed descriptors and sockets that are not selected have none. -/
def socketOf (call : String) (pid : Pid) (f : ConnectionFilter) (fd : Int) : Query (Option Connection) := do
  return (← descriptor? ⟨socketSize, connectionOf? pid f fd⟩ pid fd .socket call).join

private theorem socketOf_narrows (call : String) (pid : Pid) (f : ConnectionFilter) (fd : Int) :
    (socketOf call pid f fd).result answer =
      ((socketOf call pid .all fd).result answer).map (Option.filter fun c => f.selects c.sort.1 c.sort.2) := by
  have narrowed : connectionOf? pid f fd =
      fun b => (connectionOf? pid .all fd b).filter fun c => f.selects c.sort.1 c.sort.2 :=
    funext (connectionOf?_narrows pid f fd)
  rw [socketOf, socketOf, narrowed, Query.result_bind_pure, Query.result_bind_pure,
    descriptor?_map socketSize (connectionOf? pid .all fd) (Option.filter _)]
  cases (descriptor? ⟨socketSize, connectionOf? pid .all fd⟩ pid fd .socket call).result answer with
  | error fault => rfl
  | ok found => cases found <;> rfl

/-- Selecting the descriptors' sockets one by one is selecting among their connections. -/
theorem connections_result_narrows (p : Probe) (pid : Pid) (f : ConnectionFilter) :
    (connections p pid f).result answer =
      ((connections p pid .all).result answer).map fun cs => cs.filter fun c => f.selects c.sort.1 c.sort.2 := by
  have split (f : ConnectionFilter) : connections p pid f = (do
      let found ← ((← descriptors p pid).filter fun d => d.2 == .socket).mapM fun d =>
        socketOf "proc_pidfdinfo(PROC_PIDFDSOCKETINFO)" pid f d.1
      return found.filterMap id) := rfl
  rw [split, split]
  generalize "proc_pidfdinfo(PROC_PIDFDSOCKETINFO)" = call
  cases listed : (descriptors p pid).result answer with
  | error fault =>
    rw [Query.result_bind, Query.result_bind, listed]
    rfl
  | ok ds =>
    rw [Query.result_bind_of_ok answer listed, Query.result_bind_of_ok answer listed, Query.result_bind_pure,
      Query.result_bind_pure, Query.result_mapM, Query.result_mapM]
    simp only [socketOf_narrows call pid f, mapM_map]
    cases (ds.filter fun d => d.2 == .socket).mapM fun d => (socketOf call pid .all d.1).result answer with
    | error fault => rfl
    | ok found =>
      simp only [Except.map, List.filterMap_map, List.filter_filterMap]
      rfl

theorem connections_narrows (p : Probe) (pid : Pid) :
    Narrows answer Connection.sort fun f => connections p pid f := by
  intro all listed f
  rw [connections_result_narrows, listed]
  rfl

theorem netConnections_narrows (p : Probe) :
    Narrows answer Connection.sort fun f => BSD.connectionsOfAll (pids p) fun pid => connections p pid f := by
  intro all listed f
  exact connectionsOfAll_narrows (fun pid => connections_result_narrows p pid f) listed

end MacOS

/-! ### Windows -/

namespace Windows

variable {answer : (c : Call) → c.Answer}

/-- A table holds sockets of one family and type, and is listed whole or not at all. -/
private theorem socketsOf_narrows (context : Context) {layout : SocketLayout}
    (oneFamily : layout.family.bits ∈ [1, 2, 4]) (oneKind : layout.kind.bits ∈ [1, 2, 4]) (call : String)
    (ask : Nat → Program (RoomReply ReturnCode Bytes)) :
    Narrows answer Connection.sort fun f => socketsOf context f layout call ask := by
  simp only [socketsOf, ConnectionFilter.wants_eq_selects _ oneFamily oneKind]
  apply Narrows.of_table
  intro all listed
  obtain ⟨table, -, listed⟩ := Query.result_bind_ok answer listed
  cases listed
  intro c member
  rw [SocketLayout.connections] at member
  split at member
  · cases member
  · obtain ⟨row, -, rfl⟩ := List.mem_map.mp member
    rfl

/-- Connections under a filter are those of all that it selects. -/
theorem connections_narrows (context : Context) (owner : Option Pid) :
    Narrows answer Connection.sort fun f => connections context owner f := by
  intro all listed f
  obtain ⟨tcp4, read₁, listed⟩ := Query.result_bind_ok answer listed
  obtain ⟨tcp6, read₂, listed⟩ := Query.result_bind_ok answer listed
  obtain ⟨udp4, read₃, listed⟩ := Query.result_bind_ok answer listed
  obtain ⟨udp6, read₄, listed⟩ := Query.result_bind_ok answer listed
  have read₁ := socketsOf_narrows context (by decide) (by decide) _ _ tcp4 read₁ f
  have read₂ := socketsOf_narrows context (by decide) (by decide) _ _ tcp6 read₂ f
  have read₃ := socketsOf_narrows context (by decide) (by decide) _ _ udp4 read₃ f
  have read₄ := socketsOf_narrows context (by decide) (by decide) _ _ udp6 read₄ f
  simp only [connections, Query.result_bind_of_ok answer read₁, Query.result_bind_of_ok answer read₂,
    Query.result_bind_of_ok answer read₃, Query.result_bind_of_ok answer read₄]
  cases owner with
  | none =>
    cases listed
    simp only [Query.result_pure, List.filter_append]
  | some pid =>
    cases listed
    simp only [Query.result_pure, ← List.filter_append]
    rw [List.filter_filter, List.filter_filter]
    simp only [Bool.and_comm]

end Windows

/-! ### Every system -/

/-- On the one system that looks sockets up by their addresses, every address is in one list at most. -/
def Backend.ListsOnce (answer : (c : Call) → c.Answer) : Backend → Prop
  | netbsd p => ∀ sockets, (NetBSD.sockets p .all).result answer = .ok sockets → NetBSD.ListedOnce sockets
  | _ => True

/-- Listing under a filter is filtering the list of everything, system-wide and for each process. -/
theorem connections_narrow (backend : Backend) (answer : (c : Call) → c.Answer) (once : backend.ListsOnce answer) :
    Narrows answer Connection.sort backend.platform.netConnections ∧
      ∀ pid, Narrows answer Connection.sort (backend.platform.connections pid) := by
  cases backend with
  | linux p => exact ⟨Linux.connections_narrows p none, fun pid =>
      .of_bind fun _ _ => Linux.connections_narrows p (some pid)⟩
  | freebsd p => exact ⟨FreeBSD.netConnections_narrows p, fun pid =>
      .of_bind fun _ _ => FreeBSD.connections_narrows p pid⟩
  | openbsd p => exact ⟨OpenBSD.netConnections_narrows p, fun pid =>
      .of_bind fun _ _ => OpenBSD.connections_narrows p pid⟩
  | netbsd p => exact ⟨NetBSD.netConnections_narrows p once, fun pid =>
      .of_bind fun _ _ => NetBSD.connections_narrows p once pid⟩
  | macos p => exact ⟨MacOS.netConnections_narrows p, fun pid =>
      .of_bind fun _ _ => MacOS.connections_narrows p pid⟩
  | windows context => exact ⟨Windows.connections_narrows context none, fun pid =>
      .of_bind fun _ _ => Windows.connections_narrows context (some pid)⟩

def recordWith (size offset width value : Nat) : Bytes :=
  List.replicate offset 0 ++ Bytes.ofNat width value ++ List.replicate (size - offset - width) 0

/-- A host with a process that holds an internet and a local socket, and with one that cannot be looked into. -/
def twoSockets : (c : Call) → c.Answer
  | .sysctl (.resolve _) => .ok ()
  | .sysctl (.size _) => .ok 0
  | .sysctl (.read mib _) => if mib.numbers.take 4 = [1, 77, 2, 2] then .error (.number ErrorNumber.accessDenied)
    else .ok { bytes := table mib }
  | c => Host.reply {} c
where
  descriptor (fd socket : Nat) : Bytes := recordWith 64 16 4 2 ++ recordWith 44 0 8 socket ++ recordWith 12 0 4 fd
  table (mib : Mib) : Bytes :=
    if mib.name = some "net.inet.tcp.pcblist" then recordWith 640 16 8 7
    else if mib.name = some "net.local.stream.pcblist" then recordWith 640 16 8 8
    else if mib.name.isSome then []
    else if mib.numbers.take 2 = [1, 47] then recordWith 680 116 4 1 ++ recordWith 680 116 4 2
    else descriptor 3 7 ++ descriptor 4 8

def twoSockets.held (fd : Int) (family : FamilySet) (status : ConnectionStatus) : Connection where
  fd
  family
  kind := .stream
  localEnd := none
  remoteEnd := none
  status
  pid := some 1

/-- Of the two sockets, the filter for local ones leaves one. -/
theorem connections_narrow_twoSockets : (Backend.netbsd {}).ListsOnce twoSockets ∧
    ((NetBSD.platform {}).netConnections .all).result twoSockets =
      .ok [twoSockets.held 3 .inet (.ofBsdState 0), twoSockets.held 4 .unix .none] ∧
    ((NetBSD.platform {}).netConnections ⟨.unix, .all⟩).result twoSockets = .ok [twoSockets.held 4 .unix .none] ∧
    ((NetBSD.platform {}).connections 1 ⟨.unix, .all⟩).result twoSockets = .ok [twoSockets.held 4 .unix .none] := by
  have once : (Backend.netbsd {}).ListsOnce twoSockets := by
    intro sockets listed
    have once : NetBSD.ListedOnce (((NetBSD.sockets {} .all).result twoSockets).toOption.getD []) := by
      rw [NetBSD.ListedOnce]
      decide +kernel
    rw [listed] at once
    exact once
  have all : ((NetBSD.platform {}).netConnections .all).result twoSockets =
      .ok [twoSockets.held 3 .inet (.ofBsdState 0), twoSockets.held 4 .unix .none] := by decide +kernel
  have own : ((NetBSD.platform {}).connections 1 .all).result twoSockets =
      .ok [twoSockets.held 3 .inet (.ofBsdState 0), twoSockets.held 4 .unix .none] := by decide +kernel
  have narrows := connections_narrow (.netbsd {}) twoSockets once
  exact ⟨once, all, narrows.1 _ all ⟨.unix, .all⟩, narrows.2 1 _ own ⟨.unix, .all⟩⟩

end HostProbe
