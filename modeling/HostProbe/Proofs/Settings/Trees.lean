import HostProbe.Json.Reader
import HostProbe.Settings.Tree
import Mathlib.Data.List.Induction
import Mathlib.Data.List.Nodup

/-! Trees of settings that are laid over each other: of what a path leads to, the last tree decides that has a say. -/
namespace HostProbe

namespace Json

/-- Putting a member in changes what its name leads to and nothing else. -/
theorem get?_setMember (name : String) (value : Json) (members : List (String × Json)) (other : String) :
    (object (setMember name value members)).get? other =
      if name = other then some value else (object members).get? other := by
  induction members with
  | nil => by_cases same : name = other <;> simp [setMember, get?, same]
  | cons m rest ih =>
    obtain ⟨k, v⟩ := m
    simp only [get?] at ih
    by_cases same : k = name
    · subst same
      by_cases asked : k = other <;> simp [setMember, get?, asked]
    · by_cases asked : k = other
      · subst asked
        simp [setMember, get?, same, Ne.symm same]
      · simp [setMember, get?, same, asked, ih]

/-- Names stay where they are, and a new one comes last. -/
theorem map_fst_setMember (name : String) (value : Json) (members : List (String × Json)) :
    (setMember name value members).map (·.1) =
      if name ∈ members.map (·.1) then members.map (·.1) else members.map (·.1) ++ [name] := by
  induction members with
  | nil => simp [setMember]
  | cons m rest ih =>
    obtain ⟨k, v⟩ := m
    by_cases same : k = name
    · simp [setMember, same]
    · rw [setMember, if_neg same, List.map_cons, ih, List.map_cons]
      simp only [List.mem_cons, Ne.symm same, false_or]
      split <;> rfl

theorem mem_of_mem_setMember {name : String} {value : Json} {members : List (String × Json)} {m : String × Json}
    (member : m ∈ setMember name value members) : m = (name, value) ∨ m ∈ members := by
  induction members with
  | nil => exact .inl (List.mem_singleton.mp member)
  | cons first rest ih =>
    obtain ⟨k, v⟩ := first
    rw [setMember] at member
    split at member
    · rename_i same
      obtain rfl | within := List.mem_cons.mp member
      · exact .inl (by rw [same])
      · exact .inr (List.mem_cons_of_mem _ within)
    · obtain rfl | within := List.mem_cons.mp member
      · exact .inr List.mem_cons_self
      · exact (ih within).imp_right (List.mem_cons_of_mem _)

end Json

namespace Settings.Tree

/-! ### Tidy trees -/

def isScalar : Tree → Bool
  | .list _ | .object _ => false
  | _ => true

/-- Trees without an object that has two members of one name. -/
inductive Tidy : Tree → Prop
  | scalar {tree : Tree} (plain : isScalar tree = true) : Tidy tree
  | list {items : List Tree} (each : ∀ item ∈ items, Tidy item) : Tidy (.list items)
  | object {members : List (String × Tree)} (distinct : (members.map (·.1)).Nodup)
      (each : ∀ m ∈ members, Tidy m.2) : Tidy (.object members)

theorem Tidy.empty : Tidy (.object []) := .object List.nodup_nil nofun

theorem Tidy.setMember {name : String} {value : Tree} {members : List (String × Tree)}
    (tidy : Tidy (.object members)) (inner : Tidy value) : Tidy (.object (Json.setMember name value members)) := by
  cases tidy with
  | scalar plain => cases plain
  | object distinct each =>
    refine .object ?_ fun m member => ?_
    · rw [Json.map_fst_setMember]
      split
      · exact distinct
      · rename_i absent
        exact List.nodup_append.mpr ⟨distinct, List.nodup_singleton _, fun a within b last same =>
          absent (List.mem_singleton.mp last ▸ same ▸ within)⟩
    · obtain rfl | within := Json.mem_of_mem_setMember member
      · exact inner
      · exact each m within

/-- What a name leads to in a tidy tree is tidy. -/
theorem Tidy.get? {tree inner : Tree} {name : String} (tidy : Tidy tree) (found : tree.get? name = some inner) :
    Tidy inner := by
  cases tidy with
  | scalar plain =>
    cases tree with
    | list | object => cases plain
    | _ => cases found
  | list each => cases found
  | object distinct each =>
    obtain ⟨m, named, rfl⟩ := Option.map_eq_some_iff.mp found
    exact each m (List.mem_of_find?_eq_some named)

/-- A tidy value is so at the end of any path. -/
theorem Tidy.nest {value : Tree} (tidy : Tidy value) (names : List String) : Tidy (nest value names) := by
  induction names with
  | nil => exact tidy
  | cons name rest ih =>
    rw [Tree.nest]
    split
    · exact tidy
    · refine .object (List.nodup_singleton _) fun m member => ?_
      rw [List.mem_singleton.mp member]
      exact ih

/-! ### One tree over another -/

theorem overlay_scalar {later : Tree} (plain : isScalar later = true) (earlier : Tree) :
    overlay earlier later = later := by
  cases later with
  | list | object => cases plain
  | _ => rw [overlay]

/-- Only scalars are covered by scalars, and only by themselves. -/
theorem isScalar_overlay (earlier later : Tree) : isScalar (overlay earlier later) = isScalar later := by
  cases later with
  | list => cases earlier <;> simp only [overlay, isScalar]
  | object => cases earlier <;> simp only [overlay, isScalar]
  | _ => rw [overlay]

def covering (earlier? : Option Tree) (later : Tree) : Tree :=
  match earlier? with
  | some earlier => overlay earlier later
  | none => later

/-- Members over members join name by name. -/
theorem get?_overlayMembers (earlier : List (String × Tree)) {members : List (String × Tree)}
    (distinct : (members.map (·.1)).Nodup) (name : String) :
    (Json.object (overlayMembers earlier members)).get? name =
      match (Json.object members).get? name with
      | some inner => some (covering ((Json.object earlier).get? name) inner)
      | none => (Json.object earlier).get? name := by
  induction members generalizing earlier with
  | nil => rw [overlayMembers]; rfl
  | cons m rest ih =>
    obtain ⟨k, v⟩ := m
    obtain ⟨fresh, distinct⟩ := List.nodup_cons.mp distinct
    rw [overlayMembers, ih _ distinct, Json.get?_setMember]
    by_cases same : k = name
    · subst same
      have absent : (Json.object rest).get? k = none := by
        rw [Json.get?, Option.map_eq_none_iff, List.find?_eq_none]
        intro m member named
        exact fresh (List.mem_map.mpr ⟨m, member, eq_of_beq named⟩)
      have found : (Json.object ((k, v) :: rest)).get? k = some v := by simp [Json.get?]
      rw [absent, found, if_pos rfl]
      rfl
    · have passed : (Json.object ((k, v) :: rest)).get? name = (Json.object rest).get? name := by
        simp [Json.get?, same]
      rw [passed, if_neg same]

/-- What a name leads to in an object over a tree. -/
theorem get?_overlay (earlier : Tree) {members : List (String × Tree)} (distinct : (members.map (·.1)).Nodup)
    (name : String) : (overlay earlier (.object members)).get? name =
      match (Json.object members).get? name with
      | some inner => some (covering (earlier.get? name) inner)
      | none => earlier.get? name := by
  cases earlier with
  | object earlier => rw [overlay, get?_overlayMembers earlier distinct]
  | _ =>
    simp only [overlay]
    cases (Json.object members).get? name <;> rfl

/-- A tidy tree over a tidy one makes a tidy one. -/
theorem Tidy.overlay {earlier later : Tree} (first : Tidy earlier) (second : Tidy later) :
    Tidy (overlay earlier later) := by
  induction second generalizing earlier with
  | scalar plain =>
    rw [overlay_scalar plain]
    exact .scalar plain
  | list each =>
    cases earlier with
    | list items =>
      rw [Tree.overlay]
      cases first with
      | scalar plain => cases plain
      | list others =>
        refine .list fun item member => ?_
        obtain within | within := List.mem_append.mp member
        · exact others item within
        · exact each item within
    | _ =>
      simp only [Tree.overlay]
      exact .list each
  | @object members distinct each ih =>
    cases earlier with
    | object old =>
      rw [Tree.overlay]
      clear distinct
      induction members generalizing old with
      | nil => rw [overlayMembers]; exact first
      | cons m rest step =>
        obtain ⟨k, v⟩ := m
        rw [overlayMembers]
        refine step (fun m member => each m (List.mem_cons_of_mem _ member))
          (fun m member => ih m (List.mem_cons_of_mem _ member)) _ (first.setMember ?_)
        cases found : (old.find? fun m => m.1 == k).map (·.2) with
        | none => exact each (k, v) List.mem_cons_self
        | some inner => exact ih (k, v) List.mem_cons_self (first.get? found)
    | _ =>
      simp only [Tree.overlay]
      exact .object distinct each

/-! ### Paths -/

def isObject : Tree → Bool
  | .object _ => true
  | _ => false

/-- A tree has a say in what a path leads to unless its own objects come to an end on the way. -/
def speaks (tree : Tree) : List String → Bool
  | [] => true
  | name :: rest => name.isEmpty || !tree.isObject || (tree.get? name).any fun inner => speaks inner rest

/-- Tidy trees laid over a tidy one stay tidy. -/
theorem Tidy.foldl_overlay {base : Tree} (first : Tidy base) {trees : List Tree} (tidy : ∀ tree ∈ trees, Tidy tree) :
    Tidy (trees.foldl Tree.overlay base) := by
  induction trees generalizing base with
  | nil => exact first
  | cons tree trees ih =>
    obtain ⟨second, others⟩ := List.forall_mem_cons.mp tidy
    exact ih (first.overlay second) others

theorem get?_of_not_isObject {tree : Tree} (other : tree.isObject = false) (name : String) : tree.get? name = none := by
  cases tree with
  | object => cases other
  | _ => rfl

theorem at?_cons {name : String} (named : name.isEmpty = false) (tree : Tree) (rest : List String) :
    tree.at? (name :: rest) = (tree.get? name).bind fun inner => at? inner rest := by
  rw [at?, named]
  rfl

/-- A tree without a say has nothing at the path. -/
theorem at?_of_silent {tree : Tree} {path : List String} (silent : tree.speaks path = false) :
    tree.at? path = none := by
  induction path generalizing tree with
  | nil => cases silent
  | cons name rest ih =>
    simp only [speaks, Bool.or_eq_false_iff] at silent
    obtain ⟨⟨named, -⟩, silent⟩ := silent
    rw [at?_cons named]
    cases found : tree.get? name with
    | none => rfl
    | some inner =>
      rw [found] at silent
      exact ih silent

/-- Where a tree has no say, the tree below shows. -/
theorem at?_overlay_of_silent {later : Tree} (tidy : Tidy later) {path : List String}
    (silent : later.speaks path = false) (earlier : Tree) : (overlay earlier later).at? path = earlier.at? path := by
  induction path generalizing earlier later with
  | nil => cases silent
  | cons name rest ih =>
    simp only [speaks, Bool.or_eq_false_iff] at silent
    obtain ⟨⟨named, whole⟩, silent⟩ := silent
    cases tidy with
    | scalar plain =>
      cases later with
      | list | object => cases plain
      | _ => cases whole
    | list each => cases whole
    | @object members distinct each =>
      rw [at?_cons named, at?_cons named, get?_overlay earlier distinct]
      cases found : (Json.object members).get? name with
      | none => rfl
      | some inner =>
        rw [found] at silent
        cases earlier.get? name with
        | none => exact at?_of_silent silent
        | some old => exact ih (Tidy.get? (.object distinct each) found) silent old

/-- Where a tree has a say, its own value is there, over the value of the tree below. -/
theorem at?_overlay_of_speaks {later : Tree} (tidy : Tidy later) {path : List String}
    (spoken : later.speaks path = true) (earlier : Tree) :
    (overlay earlier later).at? path = (later.at? path).map (covering (earlier.at? path)) := by
  induction path generalizing earlier later with
  | nil => rfl
  | cons name rest ih =>
    cases named : name.isEmpty with
    | true =>
      simp only [at?, named, if_true, Option.map_some]
      rfl
    | false =>
      rw [at?_cons named, at?_cons named, at?_cons named]
      cases tidy with
      | scalar plain =>
        have other : later.isObject = false := by
          cases later with
          | object => cases plain
          | _ => rfl
        rw [overlay_scalar plain, get?_of_not_isObject other]
        rfl
      | list each => cases earlier <;> simp only [overlay] <;> rfl
      | @object members distinct each =>
        rw [get?_overlay earlier distinct]
        simp only [speaks, named, isObject, Bool.not_true, Bool.false_or] at spoken
        cases found : (Json.object members).get? name with
        | none =>
          rw [found] at spoken
          cases spoken
        | some inner =>
          rw [found] at spoken
          cases earlier.get? name with
          | none => exact Option.map_id'.symm
          | some old => exact ih (Tidy.get? (.object distinct each) found) spoken old

/-- A tree with something at a path has a say in it. -/
theorem speaks_of_at? {tree value : Tree} {path : List String} (found : tree.at? path = some value) :
    tree.speaks path = true := by
  by_contra silent
  rw [at?_of_silent (Bool.not_eq_true _ ▸ silent)] at found
  cases found

/-- A later scalar replaces what stood at its path before. -/
theorem at?_overlay_of_scalar {later value : Tree} (tidy : Tidy later) {path : List String}
    (found : later.at? path = some value) (plain : isScalar value = true) (earlier : Tree) :
    (overlay earlier later).at? path = some value := by
  rw [at?_overlay_of_speaks tidy (speaks_of_at? found), found, Option.map_some]
  cases earlier.at? path with
  | none => rfl
  | some old => exact congrArg some (overlay_scalar plain old)

/-! ### Trees over trees -/

/-- What is at a path in the last tree that has a say in it. -/
def latest? (trees : List Tree) (path : List String) : Option Tree :=
  (trees.reverse.find? fun tree => tree.speaks path).bind fun tree => tree.at? path

theorem latest?_append (trees : List Tree) (last : Tree) (path : List String) :
    latest? (trees ++ [last]) path = if last.speaks path then last.at? path else latest? trees path := by
  rw [latest?, List.reverse_append, List.reverse_singleton, List.singleton_append, List.find?_cons]
  cases last.speaks path <;> rfl

/-- The last tree with something at a path decides if those behind it have no say. -/
theorem latest?_of_last {last value : Tree} {behind : List Tree} {path : List String}
    (found : last.at? path = some value) (silent : ∀ tree ∈ behind, tree.speaks path = false) (before : List Tree) :
    latest? (before ++ last :: behind) path = some value := by
  induction behind using List.reverseRecOn with
  | nil => rw [latest?_append, if_pos (speaks_of_at? found), found]
  | append_singleton behind tree ih =>
    obtain ⟨others, mute⟩ := List.forall_mem_append.mp silent
    rw [← List.cons_append, ← List.append_assoc, latest?_append, mute tree (List.mem_singleton_self tree),
      if_neg Bool.false_ne_true]
    exact ih others

/-- A scalar stays what it is over another value, and what is no scalar does not become one. -/
private theorem map_covering_eq_iff {found value? : Option Tree} (earlier? : Option Tree)
    (plain : ∀ value ∈ value?, isScalar value = true) :
    found.map (covering earlier?) = value? ↔ found = value? := by
  have kept (value : Tree) : isScalar (covering earlier? value) = isScalar value := by
    cases earlier? with
    | none => rfl
    | some earlier => exact isScalar_overlay earlier value
  have same (value : Tree) (plain : isScalar value = true) : covering earlier? value = value := by
    cases earlier? with
    | none => rfl
    | some earlier => exact overlay_scalar plain earlier
  constructor
  · rintro rfl
    cases found with
    | none => rfl
    | some value => rw [Option.map_some, same value ((kept value).symm.trans (plain _ rfl))]
  · rintro rfl
    cases found with
    | none => rfl
    | some value => rw [Option.map_some, same value (plain value rfl)]

/-- Trees laid over each other lead to a scalar, or to nothing, exactly where the last tree with a say does. -/
theorem at?_foldl_overlay (base : Tree) {trees : List Tree} (tidy : ∀ tree ∈ trees, Tidy tree) (path : List String)
    {value? : Option Tree} (plain : ∀ value ∈ value?, isScalar value = true) :
    (trees.foldl overlay base).at? path = value? ↔ latest? (base :: trees) path = value? := by
  -- From the end: the last tree decides, or else it lets those before it show.
  induction trees using List.reverseRecOn with
  | nil =>
    have only : latest? [base] path = if base.speaks path then base.at? path else none :=
      latest?_append [] base path
    rw [only, List.foldl_nil]
    cases spoken : base.speaks path with
    | true => rfl
    | false => rw [at?_of_silent spoken]; rfl
  | append_singleton trees last ih =>
    obtain ⟨others, one⟩ := List.forall_mem_append.mp tidy
    have tidy := one last (List.mem_singleton_self last)
    rw [List.foldl_append, List.foldl_cons, List.foldl_nil, ← List.cons_append, latest?_append]
    cases spoken : last.speaks path with
    | false =>
      rw [at?_overlay_of_silent tidy spoken, if_neg Bool.false_ne_true]
      exact ih others
    | true =>
      rw [at?_overlay_of_speaks tidy spoken, if_pos rfl]
      exact map_covering_eq_iff _ plain

end Settings.Tree
end HostProbe
