import HostProbe.Proofs.Connections.Agreement
import HostProbe.Proofs.Files
import Mathlib.Data.List.Forall2
import Mathlib.Data.List.Nodup

/-! Whose a socket is: every socket in the tables of a Linux system is listed once for each descriptor that holds it,
or once without an owner where no readable process holds it. -/
namespace HostProbe.Linux

/-! ### What the files say -/

section files

variable (answer : (c : Call) → c.Answer) (fs : Procfs)

/-- A numeral is written one way only, so different names in a directory are different numbers. -/
def PlainNames (names : List String) : Prop :=
  names.Nodup ∧ ∀ name ∈ names, ∀ n ∈ Integer.int32? name.toList, name = toString n

/-- Directories list plain names: the root those of processes, and each process those of its descriptors. -/
structure PlainEntries : Prop where
  processes : ∀ names, answer (.file (.list fs.root)) = .ok names → PlainNames names
  descriptors : ∀ pid names, answer (.file (.list (fs.pidPath pid "fd"))) = .ok names → PlainNames names

def LinksSocket (target : Bytes) (inode : Nat) : Prop :=
  ∃ digits, Utf8.decode? target = some ("socket:[".toList ++ digits ++ [']']) ∧ Integer.word? digits = some inode

def Listed (pid : Pid) : Prop :=
  ∃ names, answer (.file (.list fs.root)) = .ok names ∧ ∃ name ∈ names, Integer.int32? name.toList = some pid

/-- A listed process can be read and has a descriptor whose link leads to the socket of an inode. -/
def Holds (inode : Nat) (pid : Pid) (fd : Int) : Prop :=
  Listed answer fs pid ∧ ∃ names, answer (.file (.list (fs.pidPath pid "fd"))) = .ok names ∧
    ∃ name ∈ names, Integer.int32? name.toList = some fd ∧
      ∃ target, answer (.file (.readLink (Path.join (fs.pidPath pid "fd") name))) = .ok target ∧
        LinksSocket target inode

/-- Lines of a table behind its headings; a table that is missing has none. -/
def tableLines (table : String) : List Text :=
  match (Ask.readText (fs.path table)).eval answer with
  | .ok text => text.lines.drop 1
  | .error _ => []

/-- Sockets on the lines of an internet table, as they are listed without an owner. -/
def internetRows (table : String × FamilySet × SocketTypeSet) : List (Nat × Connection) :=
  let (name, family, kind) := table
  (tableLines answer fs name).filterMap fun line => (Procfs.parseInetLine kind line).toOption.join.map fun s =>
    (s.inode, internetConnection family kind s)

def localRows : List (Nat × Connection) :=
  (tableLines answer fs "net/unix").filterMap fun line => (Procfs.parseUnixLine line).toOption.join.map fun s =>
    (s.inode, localConnection s)

/-- Inodes of the sockets that a filter selects, with what is listed of each: table by table and line by line. -/
def socketRows (f : ConnectionFilter) : List (Nat × Connection) :=
  (internetTables.flatMap (internetRows answer fs) ++ localRows answer fs).filter fun s =>
    f.selects s.2.family s.2.kind

/-- Every line of a table that the filter wants can be read. -/
structure Legible (f : ConnectionFilter) : Prop where
  internet : ∀ table ∈ internetTables, f.selects table.2.1 table.2.2 = true →
    ∀ line ∈ tableLines answer fs table.1, ∃ s, Procfs.parseInetLine table.2.2 line = .ok s
  unix : f.wants .unix .all = true → ∀ line ∈ tableLines answer fs "net/unix", ∃ s, Procfs.parseUnixLine line = .ok s

end files

structure Attributed (holds : Pid → Int → Prop) (row : Connection) (entries : List Connection) : Prop where
  held : ∀ pid fd, holds pid fd → entries.count { row with fd, pid := some pid } = 1
  orphaned : (∀ pid fd, ¬ holds pid fd) → entries = [{ row with fd := -1, pid := none }]
  only : (∃ pid fd, holds pid fd) → ∀ c ∈ entries, ∃ pid fd, holds pid fd ∧ c = { row with fd, pid := some pid }
  ordered : entries.Pairwise fun a b => ∀ pid ∈ a.pid, ∀ other ∈ b.pid, pid ≤ other

/-! ### Tables -/

section tables

variable {answer : (c : Call) → c.Answer}

/-- Collecting answers succeeds with what each element gives. -/
theorem forall₂_of_mapM {α β : Type} {f : α → Outcome β} {xs : List α} {ys : List β} (collected : xs.mapM f = .ok ys) :
    List.Forall₂ (fun x y => f x = .ok y) xs ys := by
  induction xs generalizing ys with
  | nil =>
    cases collected
    exact .nil
  | cons x xs ih =>
    rw [List.mapM_cons] at collected
    cases head : f x with
    | error fault =>
      rw [head] at collected
      cases collected
    | ok first =>
      cases tail : xs.mapM f with
      | error fault =>
        rw [head, tail] at collected
        cases collected
      | ok rest =>
        rw [head, tail] at collected
        cases collected
        exact .cons head (ih tail)

/-- A table that can be read is read line by line, and its rows are what the lines hold. -/
theorem rows_of_lines {α β : Type} {read : α → Outcome (Option β)} {lines : List α} {rows : List β}
    (parsed : (do return (← lines.mapM read).filterMap id : Outcome (List β)) = .ok rows) :
    (∀ line ∈ lines, ∃ row, read line = .ok row) ∧ rows = lines.filterMap fun line => (read line).toOption.join := by
  cases collected : lines.mapM read with
  | error fault =>
    rw [collected] at parsed
    cases parsed
  | ok found =>
    rw [collected] at parsed
    cases parsed
    have each := forall₂_of_mapM collected
    clear collected
    induction each with
    | nil => simp
    | cons head _ ih =>
      refine ⟨List.forall_mem_cons.mpr ⟨⟨_, head⟩, ih.1⟩, ?_⟩
      rw [List.filterMap_cons, List.filterMap_cons, head, ih.2]
      rfl

/-- A table that is listed is missing, or its lines are those behind the headings. -/
theorem tableLines_of_socketTable {p : Probe} {table : String} {text : Option Text}
    (read : (p.socketTable table).result answer = .ok text) :
    tableLines answer p.procfs table = (text.map fun t => t.lines.drop 1).getD [] := by
  obtain ⟨attempted, asked, read⟩ := Query.result_bind_ok answer read
  rw [Query.result_attempt, Procfs.read, Procfs.readText, Query.result_onPath] at asked
  rw [tableLines]
  cases contents : (Ask.readText (p.procfs.path table)).eval answer with
  | ok t =>
    rw [contents] at asked
    cases asked
    cases read
    rfl
  | error cause =>
    rw [contents] at asked
    cases asked
    dsimp only [pathError] at read
    split at read
    · cases read
      rfl
    · cases read

/-- Rows of an internet table are of its family and type. -/
private theorem sort_of_mem_internetRows {fs : Procfs} {table : String × FamilySet × SocketTypeSet} :
    ∀ s ∈ internetRows answer fs table, s.2.sort = table.2 := by
  intro s member
  obtain ⟨line, -, made⟩ := List.mem_filterMap.mp member
  obtain ⟨socket, -, rfl⟩ := Option.map_eq_some_iff.mp made
  rfl

/-- An internet table gives its rows, or none if the filter does not want them. -/
private theorem internetSockets_eq {p : Probe} {f : ConnectionFilter} {table : String × FamilySet × SocketTypeSet}
    {sockets : List (Nat × Connection)} (listed : (p.internetSockets f table).result answer = .ok sockets) :
    (f.selects table.2.1 table.2.2 = true → ∀ line ∈ tableLines answer p.procfs table.1,
      ∃ s, Procfs.parseInetLine table.2.2 line = .ok s) ∧
      sockets = (internetRows answer p.procfs table).filter fun s => f.selects s.2.family s.2.kind := by
  have sorted : ∀ s ∈ internetRows answer p.procfs table, s.2.sort = table.2 := sort_of_mem_internetRows
  obtain ⟨name, family, kind⟩ := table
  rw [Probe.internetSockets] at listed
  cases wanted : f.selects family kind with
  | false =>
    rw [wanted] at listed
    cases listed
    refine ⟨fun absent => absurd absent Bool.false_ne_true, (List.filter_eq_nil_iff.mpr ?_).symm⟩
    intro s member
    have same := sorted s member
    rw [Connection.sort, Prod.mk.injEq] at same
    rw [same.1, same.2, wanted]
    exact Bool.false_ne_true
  | true =>
    rw [wanted] at listed
    obtain ⟨text, read, listed⟩ := Query.result_bind_ok answer listed
    have lines := tableLines_of_socketTable read
    have all : (internetRows answer p.procfs (name, family, kind)).filter (fun s => f.selects s.2.family s.2.kind) =
        internetRows answer p.procfs (name, family, kind) := by
      rw [List.filter_eq_self]
      intro s member
      have same := sorted s member
      rw [Connection.sort, Prod.mk.injEq] at same
      rw [same.1, same.2, wanted]
    rw [all, internetRows, lines]
    cases text with
    | none =>
      cases listed
      simp
    | some text =>
      obtain ⟨rows, parsed, listed⟩ := Query.result_bind_ok answer listed
      cases listed
      obtain ⟨legible, rfl⟩ := rows_of_lines parsed
      exact ⟨fun _ => legible, List.map_filterMap⟩

/-- The local table gives its rows of the types that the filter selects, or none if it wants no local sockets. -/
private theorem localSockets_eq {p : Probe} {f : ConnectionFilter} {sockets : List (Nat × Connection)}
    (listed : (p.localSockets f).result answer = .ok sockets) :
    (f.wants .unix .all = true → ∀ line ∈ tableLines answer p.procfs "net/unix",
      ∃ s, Procfs.parseUnixLine line = .ok s) ∧
      sockets = (localRows answer p.procfs).filter fun s => f.selects s.2.family s.2.kind := by
  rw [Probe.localSockets] at listed
  cases wanted : f.wants .unix .all with
  | false =>
    rw [wanted] at listed
    cases listed
    refine ⟨fun absent => absurd absent Bool.false_ne_true, (List.filter_eq_nil_iff.mpr ?_).symm⟩
    intro s member
    obtain ⟨line, -, made⟩ := List.mem_filterMap.mp member
    obtain ⟨socket, parsed, rfl⟩ := Option.map_eq_some_iff.mp made
    have parsed : Procfs.parseUnixLine line = .ok (some socket) := by
      cases read : Procfs.parseUnixLine line with
      | error fault =>
        rw [read] at parsed
        cases parsed
      | ok row =>
        rw [read] at parsed
        exact congrArg Except.ok parsed
    have unselected : f.selects .unix socket.kind = false :=
      ConnectionFilter.selects_eq_false wanted (by decide) (parseUnixLine_bits parsed) (by decide) (bitsContain_full _)
    exact Bool.eq_false_iff.mp unselected
  | true =>
    rw [wanted] at listed
    obtain ⟨text, read, listed⟩ := Query.result_bind_ok answer listed
    have lines := tableLines_of_socketTable read
    rw [localRows, lines]
    cases text with
    | none =>
      cases listed
      simp
    | some text =>
      obtain ⟨rows, parsed, listed⟩ := Query.result_bind_ok answer listed
      cases listed
      obtain ⟨legible, rfl⟩ := rows_of_lines parsed
      rw [Option.map_some, Option.getD_some, ← List.map_filterMap, List.filter_map]
      exact ⟨fun _ => legible, rfl⟩

/-- Tables give their rows one after the other. -/
private theorem internetSockets_flatten {p : Probe} {f : ConnectionFilter}
    {names : List (String × FamilySet × SocketTypeSet)} {found : List (List (Nat × Connection))}
    (each : List.Forall₂ (fun table sockets => (p.internetSockets f table).result answer = .ok sockets) names found) :
    (∀ table ∈ names, f.selects table.2.1 table.2.2 = true →
      ∀ line ∈ tableLines answer p.procfs table.1, ∃ s, Procfs.parseInetLine table.2.2 line = .ok s) ∧
      found.flatten = (names.flatMap (internetRows answer p.procfs)).filter fun s =>
        f.selects s.2.family s.2.kind := by
  induction each with
  | nil => simp
  | cons head _ ih =>
    obtain ⟨legible, rfl⟩ := internetSockets_eq head
    refine ⟨List.forall_mem_cons.mpr ⟨legible, ih.1⟩, ?_⟩
    rw [List.flatten_cons, List.flatMap_cons, List.filter_append, ih.2]

/-- What is read of the tables are the rows that the filter selects, and no line that it wants was passed over. -/
theorem tables_eq {p : Probe} {f : ConnectionFilter} {sockets : List (Nat × Connection)}
    (listed : (tables p f).result answer = .ok sockets) :
    Legible answer p.procfs f ∧ sockets = socketRows answer p.procfs f := by
  obtain ⟨internet, asked, listed⟩ := Query.result_bind_ok answer listed
  obtain ⟨locals, read, listed⟩ := Query.result_bind_ok answer listed
  cases listed
  obtain ⟨unix, rfl⟩ := localSockets_eq read
  rw [Query.result_mapM] at asked
  obtain ⟨legible, rows⟩ := internetSockets_flatten (forall₂_of_mapM asked)
  rw [socketRows, List.filter_append, rows]
  exact ⟨⟨legible, unix⟩, rfl⟩

/-- Sockets in the tables have no owner. -/
theorem unowned_of_mem_socketRows {fs : Procfs} {f : ConnectionFilter} :
    ∀ s ∈ socketRows answer fs f, s.2.fd = -1 ∧ s.2.pid = none := by
  intro s member
  obtain within | within := List.mem_append.mp (List.mem_filter.mp member).1
  · obtain ⟨table, -, within⟩ := List.mem_flatMap.mp within
    obtain ⟨line, -, made⟩ := List.mem_filterMap.mp within
    obtain ⟨socket, -, rfl⟩ := Option.map_eq_some_iff.mp made
    exact ⟨rfl, rfl⟩
  · obtain ⟨line, -, made⟩ := List.mem_filterMap.mp within
    obtain ⟨socket, -, rfl⟩ := Option.map_eq_some_iff.mp made
    exact ⟨rfl, rfl⟩

end tables

/-! ### Holders -/

section holders

variable {answer : (c : Call) → c.Answer} {p : Probe}

/-- A link to a socket is one that names its inode between brackets. -/
private theorem socketInode?_eq_some_iff {link : Text} {inode : Nat} : Procfs.socketInode? link = some inode ↔
    ∃ digits, link = "socket:[".toList ++ digits ++ [']'] ∧ Integer.word? digits = some inode := by
  simp only [Procfs.socketInode?, Text.dropPrefix?, Text.dropSuffix?, Option.bind_eq_some_iff, Option.map_eq_some_iff,
    List.isPrefixOf?_eq_some_iff_append_eq]
  constructor
  · rintro ⟨digits, ⟨rest, rfl, reversed, ends, rfl⟩, read⟩
    refine ⟨_, ?_, read⟩
    rw [List.append_assoc, ← List.reverse_reverse rest, ← ends]
    simp
  · rintro ⟨digits, rfl, read⟩
    exact ⟨digits, ⟨digits ++ [']'], by rw [List.append_assoc], digits.reverse, by simp, List.reverse_reverse _⟩, read⟩

/-- An entry is a holder if its name is a number and its link leads to a socket. -/
theorem socketOfEntry_eq_some_iff {dir name : String} {pid : Pid} {h : SocketHolder} :
    (Probe.socketOfEntry dir pid name).eval answer = some h ↔
      h.pid = pid ∧ Integer.int32? name.toList = some h.fd ∧
        ∃ target, answer (.file (.readLink (Path.join dir name))) = .ok target ∧ LinksSocket target h.inode := by
  rw [Probe.socketOfEntry]
  cases numbered : Integer.int32? name.toList with
  | none =>
    constructor
    · rintro ⟨⟩
    · rintro ⟨-, number, -⟩
      cases number
  | some fd =>
    rw [Program.eval_bind, Ask.eval_file]
    cases answer (.file (.readLink (Path.join dir name))) with
    | error cause =>
      constructor
      · rintro ⟨⟩
      · rintro ⟨-, -, target, link, -⟩
        cases link
    | ok target =>
      constructor
      · intro found
        obtain ⟨inode, named, rfl⟩ := Option.map_eq_some_iff.mp found
        obtain ⟨link, decoded, named⟩ := Option.bind_eq_some_iff.mp named
        obtain ⟨digits, rfl, read⟩ := socketInode?_eq_some_iff.mp named
        exact ⟨rfl, rfl, target, rfl, digits, decoded, read⟩
      · rintro ⟨rfl, number, target, link, digits, decoded, read⟩
        cases number
        cases link
        have named := socketInode?_eq_some_iff.mpr ⟨digits, rfl, read⟩
        exact Option.map_eq_some_iff.mpr ⟨h.inode, Option.bind_eq_some_iff.mpr ⟨_, decoded, named⟩, rfl⟩

/-- Sockets that a process holds are behind the entries of its directory of descriptors. -/
theorem socketsOf_eq_ok_iff {pid : Pid} {own : List SocketHolder} : (p.socketsOf pid).result answer = .ok own ↔
    ∃ names, answer (.file (.list (p.procfs.pidPath pid "fd"))) = .ok names ∧
      own = names.filterMap fun name => (Probe.socketOfEntry (p.procfs.pidPath pid "fd") pid name).eval answer := by
  have each (names : List String) :
      (names.mapM fun name => (Probe.socketOfEntry (p.procfs.pidPath pid "fd") pid name : Query _) :
        Query (List (Option SocketHolder))).result answer =
        .ok (names.map fun name => (Probe.socketOfEntry (p.procfs.pidPath pid "fd") pid name).eval answer) := by
    have one (name : String) (found : Option SocketHolder) :
        Query.result answer (Probe.socketOfEntry (p.procfs.pidPath pid "fd") pid name) = .ok found ↔
          True ∧ found = (Probe.socketOfEntry (p.procfs.pidPath pid "fd") pid name).eval answer := by
      rw [Query.result_ofProgram, Except.ok.injEq, true_and, eq_comm]
    rw [Query.result_mapM]
    exact (mapM_eq_ok_iff one names _).mpr ⟨fun _ _ => trivial, rfl⟩
  constructor
  · intro listed
    obtain ⟨names, asked, listed⟩ := Query.result_bind_ok answer listed
    rw [Query.result_bind_of_ok answer (each names)] at listed
    cases listed
    exact ⟨names, (Procfs.list_eq_ok_iff answer _ _).mp asked, List.filterMap_map⟩
  · rintro ⟨names, asked, rfl⟩
    rw [Probe.socketsOf, Query.result_bind_of_ok answer ((Procfs.list_eq_ok_iff answer _ _).mpr asked),
      Query.result_bind_of_ok answer (each names)]
    exact congrArg Except.ok List.filterMap_map

/-- Different plain names are different numbers. -/
theorem PlainNames.pairwise {names : List String} (plain : PlainNames names) : names.Pairwise fun a b =>
    ∀ n, Integer.int32? a.toList = some n → Integer.int32? b.toList ≠ some n := by
  refine plain.1.imp_of_mem fun {a b} first second different n read other => different ?_
  rw [plain.2 a first n read, plain.2 b second n other]

/-- Processes that are listed, each once and in ascending order. -/
private theorem pids_ordered (plain : PlainEntries answer p.procfs) {ids : List Pid}
    (identified : p.procfs.pids.result answer = .ok ids) :
    ids.Pairwise (· < ·) ∧ ∀ pid, pid ∈ ids ↔ Listed answer p.procfs pid := by
  obtain ⟨names, asked, rfl⟩ := (Procfs.pids_eq_ok_iff answer _ _).mp identified
  have distinct : (names.filterMap Procfs.pidOfName?).Pairwise (· ≠ ·) := by
    refine List.pairwise_filterMap.mpr ((plain.processes names asked).pairwise.imp ?_)
    intro a b different n read m other same
    exact different n read (same ▸ other)
  have sorted : ((names.filterMap Procfs.pidOfName?).mergeSort (· ≤ ·)).Pairwise fun a b => decide (a ≤ b) = true :=
    List.pairwise_mergeSort (fun a b c => by simpa using Int.le_trans) (fun a b => by simpa using Int.le_total a b) _
  have different := (List.mergeSort_perm (names.filterMap Procfs.pidOfName?) (· ≤ ·)).symm.pairwise distinct Ne.symm
  constructor
  -- Sorting only tells that no number is below the one before; that none is repeated is due to the names.
  · refine (sorted.and different).imp fun {a b} both => ?_
    exact Int.lt_iff_le_and_ne.mpr ⟨of_decide_eq_true both.1, both.2⟩
  · intro pid
    rw [List.mem_mergeSort, List.mem_filterMap]
    constructor
    · rintro ⟨name, member, read⟩
      exact ⟨names, asked, name, member, read⟩
    · rintro ⟨_, asked', name, member, read⟩
      cases asked.symm.trans asked'
      exact ⟨name, member, read⟩

theorem mem_held_iff {α : Type} {outcome : Outcome (List α)} {a : α} :
    a ∈ held outcome ↔ ∃ own, outcome = .ok own ∧ a ∈ own := by
  cases outcome with
  | error fault => simp [held, Except.toOption]
  | ok own => simp [held, Except.toOption]

/-- What a process holds are the sockets that the links of its descriptors lead to. -/
private theorem mem_held_socketsOf_iff {pid : Pid} {h : SocketHolder} :
    h ∈ held ((p.socketsOf pid).result answer) ↔ h.pid = pid ∧
      ∃ names, answer (.file (.list (p.procfs.pidPath pid "fd"))) = .ok names ∧
        ∃ name ∈ names, Integer.int32? name.toList = some h.fd ∧
          ∃ target, answer (.file (.readLink (Path.join (p.procfs.pidPath pid "fd") name))) = .ok target ∧
            LinksSocket target h.inode := by
  rw [mem_held_iff]
  constructor
  · rintro ⟨own, listed, member⟩
    obtain ⟨names, asked, rfl⟩ := socketsOf_eq_ok_iff.mp listed
    obtain ⟨name, entry, leads⟩ := List.mem_filterMap.mp member
    obtain ⟨owner, leads⟩ := socketOfEntry_eq_some_iff.mp leads
    exact ⟨owner, names, asked, name, entry, leads⟩
  · rintro ⟨owner, names, asked, name, entry, leads⟩
    refine ⟨_, socketsOf_eq_ok_iff.mpr ⟨names, asked, rfl⟩, List.mem_filterMap.mpr ⟨name, entry, ?_⟩⟩
    exact socketOfEntry_eq_some_iff.mpr ⟨owner, leads⟩

/-- A process holds one socket at most through each of its descriptors. -/
private theorem descriptors_distinct (plain : PlainEntries answer p.procfs) (pid : Pid) :
    (held ((p.socketsOf pid).result answer)).Pairwise fun a b => a.fd ≠ b.fd := by
  cases listed : (p.socketsOf pid).result answer with
  | error fault => exact .nil
  | ok own =>
    obtain ⟨names, asked, rfl⟩ := socketsOf_eq_ok_iff.mp listed
    refine List.pairwise_filterMap.mpr ((plain.descriptors pid names asked).pairwise.imp ?_)
    intro a b different first leads second others same
    obtain ⟨-, number, -⟩ := socketOfEntry_eq_some_iff.mp leads
    obtain ⟨-, other, -⟩ := socketOfEntry_eq_some_iff.mp others
    exact different _ number (same ▸ other)

/-- What is found of the holders of all processes: who holds what, each descriptor once, processes in order. -/
theorem holders_spec (plain : PlainEntries answer p.procfs) {found : List SocketHolder}
    (asked : (p.holders none).result answer = .ok found) :
    (∀ h, h ∈ found ↔ Holds answer p.procfs h.inode h.pid h.fd) ∧
      found.Pairwise fun a b => a.pid ≤ b.pid ∧ (a.pid = b.pid → a.fd ≠ b.fd) := by
  obtain ⟨ids, identified, -, rfl⟩ := (holders_eq_ok_iff p found).mp asked
  obtain ⟨ascending, listed⟩ := pids_ordered plain identified
  constructor
  · intro h
    rw [List.mem_flatMap]
    constructor
    · rintro ⟨pid, member, holds⟩
      obtain ⟨rfl, leads⟩ := mem_held_socketsOf_iff.mp holds
      exact ⟨(listed h.pid).mp member, leads⟩
    · rintro ⟨member, leads⟩
      exact ⟨h.pid, (listed h.pid).mpr member, mem_held_socketsOf_iff.mpr ⟨rfl, leads⟩⟩
  -- Within a process the descriptors differ, and between two of them the processes do.
  · refine List.pairwise_flatMap.mpr ⟨fun pid _ => ?_, ascending.imp fun {pid other} less a first b second => ?_⟩
    · refine (descriptors_distinct plain pid).imp_of_mem fun {a b} first second different => ?_
      obtain ⟨same, -⟩ := mem_held_socketsOf_iff.mp first
      obtain ⟨same', -⟩ := mem_held_socketsOf_iff.mp second
      exact ⟨Int.le_of_eq (same.trans same'.symm), fun _ => different⟩
    · obtain ⟨rfl, -⟩ := mem_held_socketsOf_iff.mp first
      obtain ⟨rfl, -⟩ := mem_held_socketsOf_iff.mp second
      exact ⟨Int.le_of_lt less, fun same => absurd same (Int.ne_of_lt less)⟩

end holders

/-! ### Attribution -/

section attribution

variable {answer : (c : Call) → c.Answer} {p : Probe}

section attributed

variable {holds : Pid → Int → Prop}

/-- A socket that nobody holds is listed as it is. -/
private theorem Attributed.of_nobody {row : Connection} (unowned : row.fd = -1 ∧ row.pid = none)
    (nobody : ∀ pid fd, ¬ holds pid fd) : Attributed holds row [row] := by
  refine ⟨fun pid fd holding => absurd holding (nobody pid fd), fun _ => ?_, ?_, List.pairwise_singleton _ _⟩
  · obtain ⟨fd, pid⟩ := unowned
    rw [← fd, ← pid]
  · rintro ⟨pid, fd, holding⟩
    exact absurd holding (nobody pid fd)

/-- A socket that somebody holds is listed for each of the holders. -/
private theorem Attributed.of_holders (row : Connection) {mine : List SocketHolder}
    (holders : ∀ pid fd, holds pid fd ↔ ∃ h ∈ mine, h.pid = pid ∧ h.fd = fd) (somebody : mine ≠ [])
    (ordered : mine.Pairwise fun a b => a.pid ≤ b.pid ∧ (a.pid = b.pid → a.fd ≠ b.fd)) :
    Attributed holds row (mine.map fun h => { row with fd := h.fd, pid := some h.pid }) := by
  refine ⟨fun pid fd holding => ?_, fun nobody => ?_, fun _ c member => ?_, ?_⟩
  · have distinct : (mine.map fun h => { row with fd := h.fd, pid := some h.pid }).Nodup := by
      refine List.pairwise_map.mpr (ordered.imp fun {a b} different equal => ?_)
      rw [Connection.mk.injEq] at equal
      obtain ⟨fd, -, -, -, -, -, pid⟩ := equal
      exact different.2 (Option.some.inj pid) fd
    obtain ⟨h, among, rfl, rfl⟩ := (holders pid fd).mp holding
    exact List.count_eq_one_of_mem distinct (List.mem_map_of_mem among)
  · obtain ⟨h, among⟩ := List.exists_mem_of_ne_nil mine somebody
    exact absurd ((holders h.pid h.fd).mpr ⟨h, among, rfl, rfl⟩) (nobody _ _)
  · obtain ⟨h, among, rfl⟩ := List.mem_map.mp member
    exact ⟨h.pid, h.fd, (holders _ _).mpr ⟨h, among, rfl, rfl⟩, rfl⟩
  · refine List.pairwise_map.mpr (ordered.imp fun {a b} different pid own other others => ?_)
    cases own
    cases others
    exact different.1

end attributed

/-- A socket is listed for each of its holders, or once for nobody. -/
private theorem attributed_of_connectionsOf {fs : Procfs} {found : List SocketHolder}
    (holds : ∀ h, h ∈ found ↔ Holds answer fs h.inode h.pid h.fd)
    (ordered : found.Pairwise fun a b => a.pid ≤ b.pid ∧ (a.pid = b.pid → a.fd ≠ b.fd)) {row : Nat × Connection}
    (unowned : row.2.fd = -1 ∧ row.2.pid = none) :
    Attributed (Holds answer fs row.1) row.2 (connectionsOf found true row.1 row.2) := by
  obtain ⟨inode, template⟩ := row
  have holders (pid : Pid) (fd : Int) : Holds answer fs inode pid fd ↔
      ∃ h ∈ found.filter (fun h => h.inode == inode), h.pid = pid ∧ h.fd = fd := by
    constructor
    · intro holding
      have member := (holds ⟨inode, pid, fd⟩).mpr holding
      exact ⟨_, List.mem_filter.mpr ⟨member, beq_self_eq_true inode⟩, rfl, rfl⟩
    · rintro ⟨h, member, rfl, rfl⟩
      obtain ⟨among, same⟩ := List.mem_filter.mp member
      rw [← eq_of_beq same]
      exact (holds h).mp among
  have apart := ordered.filter fun h => h.inode == inode
  rw [connectionsOf]
  -- From here on, only the holders of this inode matter.
  generalize found.filter (fun h => h.inode == inode) = mine at holders apart
  cases mine with
  | nil =>
    refine .of_nobody unowned fun pid fd holding => ?_
    obtain ⟨h, among, -⟩ := (holders pid fd).mp holding
    cases among
  | cons first rest => exact .of_holders template holders (List.cons_ne_nil _ _) apart

/-- Two processes that share a socket, a third that cannot be read, and two sockets that none of them holds. -/
def sharedSocket : (c : Call) → c.Answer
  | .file (.list path) =>
    if path = "/proc" then .ok ["2", "self", "1", "3"]
    else if path = "/proc/1/fd" then .ok ["0", "3"]
    else if path = "/proc/2/fd" then .ok ["5"]
    else .error (.number ErrorNumber.accessDenied)
  | .file (.readLink path) =>
    .ok (Utf8.encode (if path = "/proc/1/fd/0" then "/dev/null".toList else "socket:[7]".toList))
  | .file (.read path) =>
    if path = "/proc/net/tcp" then .ok (Utf8.encode tcp.toList)
    else if path = "/proc/net/unix" then .ok (Utf8.encode "Num\n0: 2 0 0 1 1 9 /run/log".toList)
    else .error (.number ErrorNumber.noEntry)
  | c => Host.reply {} c
where
  tcp := "sl\n0: 0100007F:0050 00000000:0000 0A 0 0 0 0 0 7\n1: 0100007F:0051 00000000:0000 06 0 0 0 0 0 0"

end attribution

end HostProbe.Linux
