import HostProbe.Proofs.Connections.Filtering

/-! The connections of one process and those of the whole system agree, and processes that cannot be read are left
out of the system's without failing it. -/
namespace HostProbe

/-! ### Lists that processes contribute to -/

section contributions

variable {α : Type} {g : Pid → List α} {mine : α → Bool} {pid : Pid}

/-- Nothing of a process's own comes from others. -/
private theorem filter_flatMap_of_notMem (owned : ∀ q, ∀ a ∈ g q, mine a = (q == pid)) {ids : List Pid}
    (absent : pid ∉ ids) : (ids.flatMap g).filter mine = [] := by
  rw [List.filter_eq_nil_iff]
  intro a member
  obtain ⟨q, listed, within⟩ := List.mem_flatMap.mp member
  have other : q ≠ pid := fun same => absent (same ▸ listed)
  rw [owned q a within, beq_eq_false_iff_ne.mpr other]
  exact Bool.false_ne_true

/-- What is a process's own among all contributions is its contribution, if it contributes once. -/
private theorem filter_flatMap_of_count (owned : ∀ q, ∀ a ∈ g q, mine a = (q == pid)) {ids : List Pid}
    (once : ids.count pid = 1) : (ids.flatMap g).filter mine = g pid := by
  induction ids with
  | nil => cases once
  | cons q ids ih =>
    rw [List.flatMap_cons, List.filter_append]
    by_cases same : q = pid
    · subst same
      have absent : q ∉ ids := by
        rw [List.count_cons_self] at once
        exact List.count_eq_zero.mp (Nat.succ.inj once)
      have every : (g q).filter mine = g q := by
        rw [List.filter_eq_self]
        intro a member
        rw [owned q a member, beq_self_eq_true]
      rw [every, filter_flatMap_of_notMem owned absent, List.append_nil]
    · have none : (g q).filter mine = [] := by
        rw [List.filter_eq_nil_iff]
        intro a member
        rw [owned q a member, beq_eq_false_iff_ne.mpr same]
        exact Bool.false_ne_true
      rw [List.count_cons_of_ne same] at once
      rw [none, List.nil_append, ih once]

/-- What is held was answered. -/
theorem forall_mem_held {holds : α → Prop} {outcome : Outcome (List α)}
    (h : ∀ own, outcome = .ok own → ∀ a ∈ own, holds a) : ∀ a ∈ held outcome, holds a := by
  intro a member
  cases outcome with
  | error fault => cases member
  | ok own => exact h own rfl a member

end contributions

/-! ### Systems that ask one process after the other -/

section processes

variable {answer : (c : Call) → c.Answer} {pids : Query (List Pid)} {per : Pid → Query (List Connection)}
  {all : List Connection}

/-- Every connection of a process names it. -/
def Owned (answer : (c : Call) → c.Answer) (per : Pid → Query (List Connection)) : Prop :=
  ∀ pid own, (per pid).result answer = .ok own → ∀ c ∈ own, c.pid = some pid

private theorem pid_of_mem_held (owned : Owned answer per) (pid : Pid) :
    ∀ c ∈ held ((per pid).result answer), c.pid = some pid :=
  forall_mem_held (owned pid)

/-- A process that can be read lists what the system lists of it. -/
theorem own_of_connectionsOfAll (owned : Owned answer per)
    (listed : (BSD.connectionsOfAll pids per).result answer = .ok all) {ids : List Pid}
    (identified : pids.result answer = .ok ids) {pid : Pid} (once : ids.count pid = 1) {own : List Connection}
    (alone : (per pid).result answer = .ok own) : own = all.filter fun c => c.pid == some pid := by
  obtain ⟨ids', identified', -, rfl⟩ := (connectionsOfAll_eq_ok_iff answer pids per all).mp listed
  rw [identified] at identified'
  cases identified'
  have owners (q : Pid) : ∀ c ∈ held ((per q).result answer), (c.pid == some pid) = (q == pid) := by
    intro c member
    rw [pid_of_mem_held owned q c member, Option.some_beq_some]
  rw [filter_flatMap_of_count owners once, alone]
  rfl

/-- Of a process that cannot be read nothing is listed. -/
theorem silent_of_connectionsOfAll (owned : Owned answer per)
    (listed : (BSD.connectionsOfAll pids per).result answer = .ok all) {pid : Pid} {fault : Fault}
    (failed : (per pid).result answer = .error fault) : ∀ c ∈ all, c.pid ≠ some pid := by
  obtain ⟨ids, -, -, rfl⟩ := (connectionsOfAll_eq_ok_iff answer pids per all).mp listed
  intro c member mine
  obtain ⟨q, -, within⟩ := List.mem_flatMap.mp member
  have owner := pid_of_mem_held owned q c within
  rw [mine] at owner
  cases owner
  rw [failed] at within
  cases within

/-- Asking every process succeeds unless one of them aborts. -/
theorem answered_of_connectionsOfAll {ids : List Pid} (identified : pids.result answer = .ok ids)
    (spared : ∀ pid ∈ ids, (per pid).Spared answer) :
    ∃ all, (BSD.connectionsOfAll pids per).result answer = .ok all :=
  ⟨_, (connectionsOfAll_eq_ok_iff answer pids per _).mpr ⟨ids, identified, spared, rfl⟩⟩

end processes

/-! ### Systems that join the table of a process with a shared one -/

theorem map_eq_error_iff {α β : Type} {g : α → β} {outcome : Outcome α} {fault : Fault} :
    outcome.map g = .error fault ↔ outcome = .error fault := by
  cases outcome <;> simp [Except.map]

def forget {α : Type} (outcome : Outcome α) : Outcome Unit := outcome.map fun _ => ()

theorem forget_eq_ok_iff {α : Type} {outcome : Outcome α} : forget outcome = .ok () ↔ ∃ a, outcome = .ok a := by
  cases outcome <;> simp [forget, Except.map]

section joins

variable {σ β : Type} (shared : Query σ) (pids : Query (List Pid)) (table : Pid → Query β)
  (entries : σ → β → Pid → List Connection)

/-- Connections of all processes, where the shared table is read once. -/
def joinedOfAll : Query (List Connection) := do
  let s ← shared
  BSD.connectionsOfAll pids fun pid => do return entries s (← table pid) pid

def joinedOf (pid : Pid) : Query (List Connection) := do
  let b ← table pid
  return entries (← shared) b pid

variable {shared pids table entries} {answer : (c : Call) → c.Answer} {all : List Connection}
  (owned : ∀ s b pid, ∀ c ∈ entries s b pid, c.pid = some pid)

include owned

private theorem owned_of_entries (s : σ) : Owned answer fun pid => do return entries s (← table pid) pid := by
  intro pid own listed c member
  obtain ⟨b, -, listed⟩ := Query.result_bind_ok answer listed
  cases listed
  exact owned s b pid c member

/-- With a shared table, too, a process lists what the system lists of it. -/
theorem own_of_joinedOfAll (listed : (joinedOfAll shared pids table entries).result answer = .ok all) {ids : List Pid}
    (identified : pids.result answer = .ok ids) {pid : Pid} (once : ids.count pid = 1) {own : List Connection}
    (alone : (joinedOf shared table entries pid).result answer = .ok own) :
    own = all.filter fun c => c.pid == some pid := by
  obtain ⟨s, read, listed⟩ := Query.result_bind_ok answer listed
  obtain ⟨b, found, alone⟩ := Query.result_bind_ok answer alone
  rw [Query.result_bind_of_ok answer read] at alone
  apply own_of_connectionsOfAll (owned_of_entries owned s) listed identified once
  rw [Query.result_bind_of_ok answer found]
  exact alone

theorem silent_of_joinedOfAll (listed : (joinedOfAll shared pids table entries).result answer = .ok all) {pid : Pid}
    {fault : Fault} (unread : forget ((table pid).result answer) = .error fault) : ∀ c ∈ all, c.pid ≠ some pid := by
  obtain ⟨s, -, listed⟩ := Query.result_bind_ok answer listed
  have failed : (do return entries s (← table pid) pid : Query _).result answer = .error fault := by
    rw [Query.result_bind_pure]
    exact map_eq_error_iff.mpr (map_eq_error_iff.mp unread)
  exact silent_of_connectionsOfAll (owned_of_entries owned s) listed failed

omit owned in
theorem answered_of_joinedOfAll {ids : List Pid} (identified : pids.result answer = .ok ids)
    (read : forget (shared.result answer) = .ok ())
    (spared : ∀ pid ∈ ids, (table pid).Spared answer) :
    ∃ all, (joinedOfAll shared pids table entries).result answer = .ok all := by
  obtain ⟨s, read⟩ := forget_eq_ok_iff.mp read
  rw [joinedOfAll, Query.result_bind_of_ok answer read]
  exact answered_of_connectionsOfAll identified fun pid member => .bind (spared pid member) fun _ _ => .pure _

end joins

/-! ### Tables that are read without an abort -/

theorem checkPid_spared {answer : (c : Call) → c.Answer} (pid : Pid) : (Query.lift (checkPid pid)).Spared answer := by
  apply Query.Spared.lift
  rw [checkPid]
  split
  · exact nofun
  · exact nofun

namespace BSD

variable {answer : (c : Call) → c.Answer} {policy : BufferPolicy} {mib : Mib} {call : String}

private theorem attempt_spared (room : Nat) : (Sysctl.attempt mib call room).Spared answer := by
  refine .bind (.ofProgram _) fun reply _ => ?_
  cases reply with
  | ok reply => exact .pure _
  | error cause =>
    dsimp only
    split
    · exact .pure _
    · exact .report _

private theorem size_spared : (Sysctl.size mib call).Spared answer := by
  refine .bind (.ofProgram _) fun size _ => ?_
  cases size with
  | ok size => exact .pure _
  | error cause => exact .report _

theorem readBytes_spared : (Sysctl.readBytes policy mib call).Spared answer :=
  .bind size_spared fun _ _ => .bind (.loop attempt_spared _ _) fun _ _ => .pure _

/-- What the kernel says of a table's size leaves room in a word for one record more. -/
def Measured {α : Type} (answer : (c : Call) → c.Answer) (layout : RecordLayout α) (mib : Mib) : Prop :=
  ∀ size, answer (.sysctl (.size (mib.extend [layout.size, 0]))) = .ok size → size + layout.size < Word.span

/-- A table whose size leaves room for one record more is read without an abort. -/
theorem readTable_spared {α : Type} {layout : RecordLayout α} (measured : Measured answer layout mib) :
    (Sysctl.readTable policy layout mib call).Spared answer := by
  refine .bind size_spared fun size told => .bind (.lift ?_) fun _ _ =>
    .bind (.loop (fun _ => attempt_spared _) _ _) fun _ _ => .pure _
  obtain ⟨reply, asked, told⟩ := Query.result_bind_ok answer told
  rw [Query.result_ofProgram] at asked
  cases reply with
  | error cause => cases told
  | ok told' =>
    cases told
    have heard : answer (.sysctl (.size (mib.extend [layout.size, 0]))) = .ok size := Except.ok.inj asked
    rw [Word.add, Word.check, if_pos (measured size heard)]
    rintro ⟨⟩

end BSD

/-! ### Agreement and robustness -/

def Linux.tables (p : Linux.Probe) (f : ConnectionFilter) : Query (List (Nat × Connection)) := do
  let internet ← internetTables.mapM (p.internetSockets f)
  return internet.flatten ++ (← p.localSockets f)

/-- How the reading of one process's descriptors goes. Where the kernel tells the owners of sockets, nothing is read of
a process to list its connections, and the reading is that of its open files. -/
def Backend.reading (answer : (c : Call) → c.Answer) (pid : Pid) : Backend → Outcome Unit
  | linux p => forget ((p.socketsOf pid).result answer)
  | freebsd p => forget ((FreeBSD.fileTable p pid).result answer)
  | openbsd p => forget ((OpenBSD.files p pid).result answer)
  | netbsd p => forget ((NetBSD.files p pid).result answer)
  | macos p => forget ((MacOS.connections p pid .all).result answer)
  | windows context => forget ((Windows.openFiles context pid).result answer)

def Backend.tables (answer : (c : Call) → c.Answer) (f : ConnectionFilter) : Backend → Outcome Unit
  | linux p => forget ((Linux.tables p f).result answer)
  | freebsd p => forget ((FreeBSD.states p f).result answer)
  | netbsd p => forget ((NetBSD.sockets p f).result answer)
  | openbsd _ | macos _ => .ok ()
  | windows context => forget ((Windows.connections context none f).result answer)

/-- What the kernel says of the size of a process's table leaves room in a word for one record more, which some systems
add to it. -/
def Backend.Measured (answer : (c : Call) → c.Answer) (pid : Pid) : Backend → Prop
  | openbsd _ => BSD.Measured answer OpenBSD.FileRecord.layout (BSD.Sysctl.mib [1, 73, 2, pid])
  | netbsd _ => BSD.Measured answer NetBSD.FileRecord.layout (BSD.Sysctl.mib [1, 77, 2, pid])
  | _ => True

/-- What a process lists is what the system lists of it, if the process is listed once. -/
def Agrees (answer : (c : Call) → c.Answer) (f : ConnectionFilter) (platform : Platform) : Prop :=
  ∀ all ids pid own, (platform.netConnections f).result answer = .ok all → platform.pids.result answer = .ok ids →
    ids.count pid = 1 → (platform.connections pid f).result answer = .ok own →
    own = all.filter fun c => c.pid == some pid

/-- Processes that cannot be read are left out, and are no reason to fail. -/
structure Robust (answer : (c : Call) → c.Answer) (f : ConnectionFilter) (backend : Backend) : Prop where
  silent : ∀ all pid fault, (backend.platform.netConnections f).result answer = .ok all →
    backend.reading answer pid = .error fault → ∀ c ∈ all, c.pid ≠ some pid
  answered : ∀ ids, backend.platform.pids.result answer = .ok ids → backend.tables answer f = .ok () →
    (∀ pid ∈ ids, backend.Measured answer pid) → ∃ all, (backend.platform.netConnections f).result answer = .ok all

/-! ### Linux -/

namespace Linux

variable {answer : (c : Call) → c.Answer} {f : ConnectionFilter}

/-- Holders name the process whose descriptors they were found among. -/
private theorem pid_of_socketOfEntry {dir name : String} {pid : Pid} {h : SocketHolder}
    (found : (Probe.socketOfEntry dir pid name).eval answer = some h) : h.pid = pid := by
  rw [Probe.socketOfEntry] at found
  cases numbered : Integer.int32? name.toList with
  | none =>
    rw [numbered] at found
    cases found
  | some fd =>
    rw [numbered, Program.eval_bind] at found
    cases linked : (Ask.file (.readLink (Path.join dir name))).eval answer with
    | error cause =>
      rw [linked] at found
      cases found
    | ok target =>
      rw [linked] at found
      obtain ⟨inode, -, made⟩ := Option.map_eq_some_iff.mp found
      rw [← made]

/-- A process holds the sockets that it is asked for. -/
private theorem pid_of_mem_socketsOf {p : Probe} {pid : Pid} {held : List SocketHolder}
    (listed : (p.socketsOf pid).result answer = .ok held) : ∀ h ∈ held, h.pid = pid := by
  obtain ⟨names, -, listed⟩ := Query.result_bind_ok answer listed
  obtain ⟨found, asked, listed⟩ := Query.result_bind_ok answer listed
  cases listed
  intro h member
  rw [Query.result_mapM] at asked
  obtain ⟨h', within, rfl⟩ := List.mem_filterMap.mp member
  obtain ⟨name, -, entry⟩ := exists_of_mem_mapM asked within
  rw [Query.result_ofProgram] at entry
  exact pid_of_socketOfEntry (Except.ok.inj entry)

private theorem socketsOf_spared (p : Probe) (pid : Pid) : (p.socketsOf pid).Spared answer := by
  refine .bind (.bind (.ofProgram _) fun names _ => ?_) fun names _ =>
    .bind (.mapM fun name _ => .ofProgram _) fun _ _ => .pure _
  cases names with
  | ok names => exact .pure _
  | error cause => exact .report _

/-- The holders of sockets in all processes are those in each of them. -/
theorem holders_eq_ok_iff (p : Probe) (found : List SocketHolder) :
    (p.holders none).result answer = .ok found ↔ ∃ ids, p.procfs.pids.result answer = .ok ids ∧
      (∀ pid ∈ ids, (p.socketsOf pid).result answer ≠ .error .abort) ∧
        found = ids.flatMap fun pid => held ((p.socketsOf pid).result answer) := by
  have each (pid : Pid) (own : List SocketHolder) :
      (do return (← (p.socketsOf pid).answer?).getD [] : Query _).result answer = .ok own ↔
        (p.socketsOf pid).result answer ≠ .error .abort ∧ own = held ((p.socketsOf pid).result answer) := by
    rw [Query.result_bind_pure, Query.result_answer?]
    cases (p.socketsOf pid).result answer with
    | ok cs => simp [Except.map, held, Except.toOption, eq_comm]
    | error fault => cases fault <;> simp [Except.map, held, Except.toOption, eq_comm]
  rw [Probe.holders]
  constructor
  · intro listed
    obtain ⟨ids, identified, listed⟩ := Query.result_bind_ok answer listed
    obtain ⟨owns, asked, listed⟩ := Query.result_bind_ok answer listed
    cases listed
    rw [Query.result_mapM] at asked
    obtain ⟨spared, rfl⟩ := (mapM_eq_ok_iff each ids owns).mp asked
    exact ⟨ids, identified, spared, rfl⟩
  · rintro ⟨ids, identified, spared, rfl⟩
    have asked := (mapM_eq_ok_iff each ids _).mpr ⟨spared, rfl⟩
    rw [← Query.result_mapM] at asked
    rw [Query.result_bind_of_ok answer identified, Query.result_bind_of_ok answer asked]
    rfl

/-- Nobody visible holds a socket in the tables themselves. -/
private theorem pid_of_mem_internetSockets {p : Probe} {table : String × FamilySet × SocketTypeSet}
    {sockets : List (Nat × Connection)} (listed : (p.internetSockets f table).result answer = .ok sockets) :
    ∀ s ∈ sockets, s.2.pid = none := by
  obtain ⟨name, family, kind⟩ := table
  intro s member
  rw [Probe.internetSockets] at listed
  split at listed
  · cases listed
    cases member
  obtain ⟨text, -, listed⟩ := Query.result_bind_ok answer listed
  cases text with
  | none =>
    cases listed
    cases member
  | some text =>
    obtain ⟨rows, -, listed⟩ := Query.result_bind_ok answer listed
    cases listed
    obtain ⟨row, -, rfl⟩ := List.mem_map.mp member
    rfl

private theorem pid_of_mem_localSockets {p : Probe} {sockets : List (Nat × Connection)}
    (listed : (p.localSockets f).result answer = .ok sockets) : ∀ s ∈ sockets, s.2.pid = none := by
  intro s member
  rw [Probe.localSockets] at listed
  split at listed
  · cases listed
    cases member
  obtain ⟨text, -, listed⟩ := Query.result_bind_ok answer listed
  cases text with
  | none =>
    cases listed
    cases member
  | some text =>
    obtain ⟨rows, -, listed⟩ := Query.result_bind_ok answer listed
    cases listed
    obtain ⟨row, -, rfl⟩ := List.mem_map.mp member
    rfl

/-- In one process, a socket is listed for each of its descriptors there. -/
private theorem connectionsOf_one (holders : List SocketHolder) (inode : Nat) (template : Connection) :
    connectionsOf holders false inode template = (holders.filter fun h => h.inode == inode).map fun h =>
      { template with fd := h.fd, pid := some h.pid } := by
  rw [connectionsOf]
  cases holders.filter fun h => h.inode == inode <;> rfl

/-- What of a socket is held by a process is what its own holders hold. -/
private theorem connectionsOf_filter (holders : List SocketHolder) (pid : Pid) (inode : Nat) {template : Connection}
    (nobody : template.pid = none) :
    ((connectionsOf holders true inode template).filter fun c => c.pid == some pid) =
      connectionsOf (holders.filter fun h => h.pid == pid) false inode template := by
  have swapped : ((holders.filter fun h => h.pid == pid).filter fun h => h.inode == inode) =
      (holders.filter fun h => h.inode == inode).filter fun h => h.pid == pid := by
    simp only [List.filter_filter, Bool.and_comm]
  rw [connectionsOf_one, swapped, connectionsOf]
  cases holders.filter fun h => h.inode == inode with
  | nil => simp [nobody]
  | cons h hs =>
    dsimp only
    rw [List.filter_map]
    simp only [Function.comp_def, Option.some_beq_some]

/-- Only holders of a socket are named by its connections. -/
private theorem pid_of_mem_connectionsOf {holders : List SocketHolder} {systemWide : Bool} {inode : Nat}
    {template c : Connection} (nobody : template.pid = none) {pid : Pid} (mine : c.pid = some pid)
    (member : c ∈ connectionsOf holders systemWide inode template) : ∃ h ∈ holders, h.pid = pid := by
  rw [connectionsOf] at member
  split at member
  · split at member
    · rw [List.mem_singleton.mp member, nobody] at mine
      cases mine
    · cases member
  · obtain ⟨h, within, rfl⟩ := List.mem_map.mp member
    exact ⟨h, (List.mem_filter.mp within).1, Option.some.inj mine⟩

/-- Sockets of the kernel's tables belong to nobody until a holder is found. -/
private theorem pid_of_mem_tables {p : Probe} {sockets : List (Nat × Connection)}
    (listed : (tables p f).result answer = .ok sockets) : ∀ s ∈ sockets, s.2.pid = none := by
  obtain ⟨internet, asked, listed⟩ := Query.result_bind_ok answer listed
  obtain ⟨locals, read, listed⟩ := Query.result_bind_ok answer listed
  cases listed
  intro s member
  obtain within | within := List.mem_append.mp member
  · obtain ⟨found, among, within⟩ := List.mem_flatten.mp within
    rw [Query.result_mapM] at asked
    obtain ⟨table, -, listed⟩ := exists_of_mem_mapM asked among
    exact pid_of_mem_internetSockets listed s within
  · exact pid_of_mem_localSockets read s within

theorem connections_eq (p : Probe) (pid : Option Pid) : (p.connections f pid).result answer =
    (do
      let holders ← p.holders pid
      let sockets ← tables p f
      return sockets.flatMap fun s => connectionsOf holders pid.isNone s.1 s.2 : Query _).result answer := by
  simp only [Probe.connections, tables, bind_assoc, pure_bind]

/-- What a process holds is what is held by it in all processes. -/
private theorem own_of_holders {p : Probe} {holders own : List SocketHolder} {ids : List Pid} {pid : Pid}
    (found : (p.holders none).result answer = .ok holders) (identified : p.procfs.pids.result answer = .ok ids)
    (once : ids.count pid = 1) (alone : (p.socketsOf pid).result answer = .ok own) :
    (holders.filter fun h => h.pid == pid) = own := by
  obtain ⟨ids', identified', -, rfl⟩ := (holders_eq_ok_iff p holders).mp found
  rw [identified] at identified'
  cases identified'
  have owners (q : Pid) : ∀ h ∈ held ((p.socketsOf q).result answer), (h.pid == pid) = (q == pid) := by
    intro h member
    rw [forall_mem_held (fun _ => pid_of_mem_socketsOf) h member]
  rw [filter_flatMap_of_count owners once, alone]
  rfl

theorem agrees (p : Probe) : Agrees answer f (platform p) := by
  intro all ids pid own listed identified once alone
  obtain ⟨_, -, alone⟩ := Query.result_bind_ok answer alone
  obtain ⟨holders, found, listed⟩ := Query.result_bind_ok answer ((connections_eq p none).symm.trans listed)
  obtain ⟨sockets, read, listed⟩ := Query.result_bind_ok answer listed
  obtain ⟨mine, asked, alone⟩ := Query.result_bind_ok answer ((connections_eq p (some pid)).symm.trans alone)
  rw [Query.result_bind_of_ok answer read] at alone
  cases listed
  cases alone
  have filtered := own_of_holders found identified once (Query.result_classifyFor_ok answer asked)
  have nobody := pid_of_mem_tables read
  rw [List.filter_flatMap, ← filtered]
  simp only [List.flatMap]
  congr 1
  apply List.map_congr_left
  intro s member
  exact (connectionsOf_filter holders pid s.1 (nobody s member)).symm

theorem robust (p : Probe) : Robust answer f (.linux p) where
  silent := by
    intro all pid fault listed unread c member mine
    obtain ⟨holders, found, listed⟩ := Query.result_bind_ok answer ((connections_eq p none).symm.trans listed)
    obtain ⟨sockets, read, listed⟩ := Query.result_bind_ok answer listed
    cases listed
    obtain ⟨s, among, within⟩ := List.mem_flatMap.mp member
    obtain ⟨h, holder, same⟩ := pid_of_mem_connectionsOf (pid_of_mem_tables read s among) mine within
    obtain ⟨ids, -, -, rfl⟩ := (holders_eq_ok_iff p holders).mp found
    obtain ⟨q, -, holder⟩ := List.mem_flatMap.mp holder
    have owner : h.pid = q := forall_mem_held (fun _ => pid_of_mem_socketsOf) h holder
    have failed := map_eq_error_iff.mp unread
    rw [← same, owner] at failed
    rw [failed] at holder
    cases holder
  answered := by
    intro ids identified read _
    obtain ⟨sockets, read⟩ := forget_eq_ok_iff.mp read
    have found := (holders_eq_ok_iff p _).mpr ⟨ids, identified, fun pid _ => socketsOf_spared p pid, rfl⟩
    have listed : (Backend.platform (.linux p)).netConnections f = p.connections f none := rfl
    rw [listed, connections_eq, Query.result_bind_of_ok answer found, Query.result_bind_of_ok answer read]
    exact ⟨_, rfl⟩

end Linux

/-! ### FreeBSD -/

namespace FreeBSD

variable {answer : (c : Call) → c.Answer} {f : ConnectionFilter}

private theorem pid_of_mem_connectionsIn (states : List (Nat × Int)) (bytes : Bytes) (pid : Pid) :
    ∀ c ∈ connectionsIn bytes pid f states, c.pid = some pid := by
  intro c member
  obtain ⟨r, -, made⟩ := List.mem_filterMap.mp member
  simp only [connectionOf?, Option.bind_eq_bind, Option.bind_eq_some_iff] at made
  obtain ⟨family, -, kind, -, made⟩ := made
  split at made
  · cases made
  · cases made
    rfl

theorem agrees (p : BSD.Probe) : Agrees answer f (platform p) := by
  intro all ids pid own listed identified once alone
  obtain ⟨_, -, alone⟩ := Query.result_bind_ok answer alone
  exact own_of_joinedOfAll pid_of_mem_connectionsIn listed identified once alone

theorem robust (p : BSD.Probe) : Robust answer f (.freebsd p) where
  silent _ _ _ listed unread := silent_of_joinedOfAll pid_of_mem_connectionsIn listed unread
  answered _ identified read _ := answered_of_joinedOfAll identified read fun pid _ =>
    .bind (checkPid_spared pid) fun _ _ => .classifyFor BSD.readBytes_spared

end FreeBSD

/-! ### OpenBSD -/

namespace OpenBSD

variable {answer : (c : Call) → c.Answer} {f : ConnectionFilter}

private theorem pid_of_mem_connectionsIn (files : List FileRecord) (pid : Pid) :
    ∀ c ∈ connectionsIn files pid f, c.pid = some pid := by
  intro c member
  obtain ⟨r, -, made⟩ := List.mem_filterMap.mp member
  simp only [connectionOf?, Option.bind_eq_bind, Option.bind_eq_some_iff] at made
  obtain ⟨family, -, kind, -, made⟩ := made
  split at made
  · cases made
  · cases made
    rfl

/-- No table is shared. -/
private theorem netConnections_eq (p : BSD.Probe) : (platform p).netConnections f =
    joinedOfAll (pure ()) (pids p) (files p) fun _ files pid => connectionsIn files pid f := rfl

theorem agrees (p : BSD.Probe) : Agrees answer f (platform p) := by
  intro all ids pid own listed identified once alone
  obtain ⟨_, -, alone⟩ := Query.result_bind_ok answer alone
  rw [netConnections_eq] at listed
  exact own_of_joinedOfAll (fun _ => pid_of_mem_connectionsIn) listed identified once alone

theorem robust (p : BSD.Probe) : Robust answer f (.openbsd p) where
  silent _ _ _ listed unread := by
    rw [Backend.platform, netConnections_eq] at listed
    exact silent_of_joinedOfAll (fun _ => pid_of_mem_connectionsIn) listed unread
  answered _ identified read measured := by
    rw [Backend.platform, netConnections_eq]
    exact answered_of_joinedOfAll identified read fun pid member =>
      .bind (checkPid_spared pid) fun _ _ => .classifyFor (BSD.readTable_spared (measured pid member))

end OpenBSD

/-! ### NetBSD -/

namespace NetBSD

variable {answer : (c : Call) → c.Answer} {f : ConnectionFilter}

private theorem pid_of_mem_joinSockets (sockets : List KindedSocket) (files : List FileRecord) (pid : Pid) :
    ∀ c ∈ joinSockets files sockets pid, c.pid = some pid := by
  intro c member
  obtain ⟨r, -, made⟩ := List.mem_filterMap.mp member
  obtain ⟨s, -, made⟩ := Option.bind_eq_some_iff.mp made
  cases made
  rfl

theorem agrees (p : BSD.Probe) : Agrees answer f (platform p) := by
  intro all ids pid own listed identified once alone
  obtain ⟨_, -, alone⟩ := Query.result_bind_ok answer alone
  exact own_of_joinedOfAll pid_of_mem_joinSockets listed identified once alone

theorem robust (p : BSD.Probe) : Robust answer f (.netbsd p) where
  silent _ _ _ listed unread := silent_of_joinedOfAll pid_of_mem_joinSockets listed unread
  answered _ identified read measured := answered_of_joinedOfAll identified read fun pid member =>
    .bind (checkPid_spared pid) fun _ _ => .classifyFor (BSD.readTable_spared (measured pid member))

end NetBSD

/-! ### macOS -/

namespace MacOS

variable {answer : (c : Call) → c.Answer} {f : ConnectionFilter}

private theorem pid_of_connectionOf? {pid : Pid} {fd : Int} {b : Bytes} {c : Connection}
    (made : connectionOf? pid f fd b = some c) : c.pid = some pid := by
  simp only [connectionOf?, Option.bind_eq_bind, Option.bind_eq_some_iff] at made
  obtain ⟨family, -, kind, -, made⟩ := made
  split at made
  · cases made
  · split at made
    all_goals
      obtain ⟨ends, -, made⟩ := Option.bind_eq_some_iff.mp made
      cases made
      rfl

/-- What is found behind a descriptor was read from some record. -/
private theorem exists_record {α : Type} {size : Nat} {read : Bytes → Option α} {pid : Pid} {fd : Int}
    {facet : DescriptorFacet} {call : String} {a : α}
    (found : ((descriptor? ⟨size, read⟩ pid fd facet call).result answer).map Option.join = .ok (some a)) :
    ∃ b, read b = some a := by
  rw [descriptor?_map size (fun b : Bytes => b) read] at found
  cases heard : (descriptor? ⟨size, fun b : Bytes => b⟩ pid fd facet call).result answer with
  | error fault =>
    rw [heard] at found
    cases found
  | ok record =>
    rw [heard] at found
    cases record with
    | none => cases found
    | some b =>
      simp only [Except.map, Option.map_some, Option.join_some, Except.ok.injEq] at found
      exact ⟨b, found⟩

private theorem pid_of_socketOf {call : String} {pid : Pid} {fd : Int} {c : Connection}
    (found : (socketOf call pid f fd).result answer = .ok (some c)) : c.pid = some pid := by
  rw [socketOf, Query.result_bind_pure] at found
  obtain ⟨b, made⟩ := exists_record found
  exact pid_of_connectionOf? made

/-- What is listed for a process names it as the owner. -/
private theorem owned_of_connections (p : Probe) : Owned answer fun pid => connections p pid f := by
  intro pid own listed c member
  obtain ⟨ds, -, listed⟩ := Query.result_bind_ok answer listed
  obtain ⟨found, asked, listed⟩ := Query.result_bind_ok answer listed
  cases listed
  rw [Query.result_mapM] at asked
  obtain ⟨c', within, rfl⟩ := List.mem_filterMap.mp member
  obtain ⟨d, -, made⟩ := exists_of_mem_mapM asked within
  exact pid_of_socketOf made

private theorem wholeRecord_spared {α : Type} {layout : RecordLayout α} {pid : Pid} {call : String}
    (heard : Except IoError Bytes) : (wholeRecord layout pid call heard).Spared answer := by
  cases heard with
  | error cause => exact .fail live pid call cause
  | ok bytes =>
    rw [wholeRecord]
    split
    · exact .pure _
    · exact .fail live pid call _

private theorem descriptor?_spared {α : Type} {layout : RecordLayout α} {pid : Pid} {fd : Int}
    {facet : DescriptorFacet} {call : String} : (descriptor? layout pid fd facet call).Spared answer := by
  have whole (heard : Except IoError Bytes) :
      (do return some (← wholeRecord layout pid call heard) : Query (Option α)).Spared answer :=
    .bind (wholeRecord_spared heard) fun _ _ => .pure _
  refine .bind (.ofProgram _) fun heard _ => ?_
  match heard with
  | .ok bytes => exact whole (.ok bytes)
  | .error (.bare kind) => exact whole (.error (.bare kind))
  | .error (.custom kind detail) => exact whole (.error (.custom kind detail))
  | .error (.number number) =>
    dsimp only
    split
    · exact .pure none
    · exact .fail live pid call _

/-- Descriptors of a process are read without an abort. -/
private theorem descriptors_spared (p : Probe) (pid : Pid) : (descriptors p pid).Spared answer := by
  refine .bind (checkPid_spared pid) fun _ _ => .bind (.ofProgram _) fun size _ => ?_
  cases size with
  | error cause => exact .fail live pid _ cause
  | ok size =>
    refine .bind (checkPid_spared pid) fun _ _ => .loop (fun count => .bind (.ofProgram _) fun heard _ => ?_) _ _
    cases heard with
    | error cause => exact .fail live pid _ cause
    | ok bytes => exact .pure _

private theorem connections_spared (p : Probe) (pid : Pid) : (connections p pid f).Spared answer :=
  .bind (descriptors_spared p pid) fun _ _ =>
    .bind (.mapM fun _ _ => .bind descriptor?_spared fun _ _ => .pure _) fun _ _ => .pure _

/-- Filters have no part in the failures of a process. -/
private theorem connections_eq_error_iff {p : Probe} {pid : Pid} {fault : Fault} :
    (connections p pid f).result answer = .error fault ↔
      forget ((connections p pid .all).result answer) = .error fault := by
  rw [connections_result_narrows, forget, map_eq_error_iff, map_eq_error_iff]

theorem agrees (p : Probe) : Agrees answer f (platform p) := by
  intro all ids pid own listed identified once alone
  obtain ⟨_, -, alone⟩ := Query.result_bind_ok answer alone
  exact own_of_connectionsOfAll (owned_of_connections p) listed identified once alone

theorem robust (p : Probe) : Robust answer f (.macos p) where
  silent _ _ _ listed unread :=
    silent_of_connectionsOfAll (owned_of_connections p) listed (connections_eq_error_iff.mpr unread)
  answered _ identified _ _ := answered_of_connectionsOfAll identified fun pid _ => connections_spared p pid

end MacOS

/-! ### Windows -/

/-- A question for the sockets of all processes, whose answer names the owner of each. -/
def Call.isSocketTable : Call → Prop
  | .windows (.tcpTable ..) | .windows (.udpTable ..) => True
  | _ => False

namespace Windows

variable {answer : (c : Call) → c.Answer} {f : ConnectionFilter} {kind : Call → Prop}

theorem agrees (context : Context) : Agrees answer f (platform context) := by
  intro all ids pid own listed _ _ alone
  obtain ⟨_, -, alone⟩ := Query.result_bind_ok answer alone
  obtain ⟨tcp4, read₁, listed⟩ := Query.result_bind_ok answer listed
  obtain ⟨tcp6, read₂, listed⟩ := Query.result_bind_ok answer listed
  obtain ⟨udp4, read₃, listed⟩ := Query.result_bind_ok answer listed
  obtain ⟨udp6, read₄, listed⟩ := Query.result_bind_ok answer listed
  rw [connections, Query.result_bind_of_ok answer read₁, Query.result_bind_of_ok answer read₂,
    Query.result_bind_of_ok answer read₃, Query.result_bind_of_ok answer read₄] at alone
  cases listed
  cases alone
  rfl

/-- Growing a buffer rests on the answers of its own call alone. -/
private theorem restsOn_roomUntilFits {ε α : Type} {context : Context} {call : String} {initial : Nat}
    {ask : Nat → Program (RoomReply ε α)} {failure : ε → Query α}
    (allowed : ∀ size, (liftM (ask size) : Query (RoomReply ε α)).RestsOn kind)
    (failing : ∀ cause, (failure cause).RestsOn kind) :
    (roomUntilFits context call initial ask failure).RestsOn kind := by
  apply Query.RestsOn.loop
  intro words
  apply Query.RestsOn.bind
  · apply Query.RestsOn.bind (allowed _)
    intro reply
    cases reply with
    | filled answer => exact .pure _
    | tooSmall needed => exact .pure _
    | failed cause => exact .bind (failing cause) fun _ => .pure _
  · intro attempted
    cases attempted with
    | done result => exact .pure _
    | tooSmall needed => exact .pure _

private theorem restsOn_socketsOf {context : Context} {layout : SocketLayout} {call : String}
    {ask : Nat → Program (RoomReply ReturnCode Bytes)}
    (allowed : ∀ size, (liftM (ask size) : Query (RoomReply ReturnCode Bytes)).RestsOn kind) :
    (socketsOf context f layout call ask).RestsOn kind := by
  rw [socketsOf]
  split
  · exact .pure _
  · exact .bind (restsOn_roomUntilFits allowed fun _ => .throw _) fun _ => .pure _

theorem netConnections_restsOn (context : Context) :
    ((platform context).netConnections f).RestsOn Call.isSocketTable := by
  refine .bind (restsOn_socketsOf fun _ => .call ?_) fun _ => .bind (restsOn_socketsOf fun _ => .call ?_) fun _ =>
    .bind (restsOn_socketsOf fun _ => .call ?_) fun _ => .bind (restsOn_socketsOf fun _ => .call ?_) fun _ => .pure _
  all_goals exact trivial

end Windows

/-! ### Every system -/

/-- What becomes of processes that cannot be read: where the kernel tells the owners of sockets, no question about a
process has a part in the list, and elsewhere they are left out of it. -/
def Backend.Tolerates (answer : (c : Call) → c.Answer) (f : ConnectionFilter) : Backend → Prop
  | windows context => ((Windows.platform context).netConnections f).RestsOn Call.isSocketTable
  | backend => Robust answer f backend

/-- The lists of single processes are parts of the system's list, which unreadable processes do not harm. -/
theorem connections_agree (backend : Backend) (answer : (c : Call) → c.Answer) (f : ConnectionFilter) :
    Agrees answer f backend.platform ∧ backend.Tolerates answer f := by
  cases backend with
  | linux p => exact ⟨Linux.agrees p, Linux.robust p⟩
  | freebsd p => exact ⟨FreeBSD.agrees p, FreeBSD.robust p⟩
  | openbsd p => exact ⟨OpenBSD.agrees p, OpenBSD.robust p⟩
  | netbsd p => exact ⟨NetBSD.agrees p, NetBSD.robust p⟩
  | macos p => exact ⟨MacOS.agrees p, MacOS.robust p⟩
  | windows context => exact ⟨Windows.agrees context, Windows.netConnections_restsOn context⟩

/-- Of two processes, the one that cannot be read is left out, and the other one lists everything. -/
theorem connections_agree_twoSockets : ∃ all own,
    ((NetBSD.platform {}).netConnections .all).result twoSockets = .ok all ∧
    ((NetBSD.platform {}).connections 1 .all).result twoSockets = .ok own ∧ own.length = 2 ∧
    own = (all.filter fun c => c.pid == some 1) ∧ ∀ c ∈ all, c.pid ≠ some 2 := by
  have identified : (NetBSD.platform {}).pids.result twoSockets = .ok [1, 2] := by decide +kernel
  have all : ((NetBSD.platform {}).netConnections .all).result twoSockets =
      .ok [twoSockets.held 3 .inet (.ofBsdState 0), twoSockets.held 4 .unix .none] := by decide +kernel
  have own : ((NetBSD.platform {}).connections 1 .all).result twoSockets =
      .ok [twoSockets.held 3 .inet (.ofBsdState 0), twoSockets.held 4 .unix .none] := by decide +kernel
  have unread : (Backend.netbsd {}).reading twoSockets 2 = .error (.report (.notFound 2)) := by decide +kernel
  obtain ⟨agrees, robust⟩ := connections_agree (.netbsd {}) twoSockets .all
  exact ⟨_, _, all, own, rfl, agrees _ _ 1 _ all identified (by decide) own, robust.silent _ 2 _ all unread⟩

/-- A host with one process, which may not be opened and owns a socket. -/
def closedOwner : (c : Call) → c.Answer
  | .windows (.system ..) => { length := 256, bytes := recordWith 256 80 8 7 }
  | .windows (.openProcess ..) => .error (.number ErrorNumber.accessDenied)
  | .windows (.tcpTable family _) =>
    .filled (if family = Windows.inet then Bytes.ofNat 4 1 ++ recordWith 24 20 4 7 else [])
  | .windows (.udpTable ..) => .filled []
  | c => Host.reply {} c

/-- A process whose open files cannot be read is still named as the owner of its socket. -/
theorem unreadable_owner_named : (Windows.platform {}).pids.result closedOwner = .ok [7] ∧
    (Backend.windows {}).reading closedOwner 7 = .error (.report (.permissionDenied 7 "OpenProcess")) ∧
    ∃ all, ((Windows.platform {}).netConnections .all).result closedOwner = .ok all ∧ ∃ c ∈ all, c.pid = some 7 := by
  have owners : (((Windows.platform {}).netConnections .all).result closedOwner).map (List.map Connection.pid) =
      .ok [some 7] := by decide +kernel
  refine ⟨by decide +kernel, by decide +kernel, ?_⟩
  cases listed : ((Windows.platform {}).netConnections .all).result closedOwner with
  | error fault =>
    rw [listed] at owners
    cases owners
  | ok all =>
    rw [listed] at owners
    have named : some 7 ∈ all.map Connection.pid := Except.ok.inj owners ▸ List.mem_singleton_self _
    obtain ⟨c, member, mine⟩ := List.mem_map.mp named
    exact ⟨all, rfl, c, member, mine⟩

end HostProbe
