import HostProbe.Host
import HostProbe.Proofs.Settings.Tidiness
import Mathlib.Data.List.Forall2

/-! Which of several sources a setting is taken from: within each spelling of its key the last source wins, and
the nested spelling wins over the one with underscores. This rests on two laws of the trees: a later scalar replaces
what stood at its path (`Tree.at?_overlay_of_scalar`), and a variable is kept under its name in lower case, without
nesting (`at?_ofVariables_variable`). -/
namespace HostProbe.Settings

open Settings.Tree (isScalar latest? Tidy)

/-! ### Sources -/

/-- What settings are loaded from: a file, or the variables of a program. -/
inductive Source
  | file (format : Format) (path : String)
  | environment (program : String) (entries : List (String × String))

def Source.load (s : Settings) : Source → Program (Except Fault Settings)
  | file format path => s.withFile format path
  | environment program entries => return s.withVariables program entries

/-- Settings of one source after the other, up to the first that cannot be loaded. -/
def load (s : Settings) : List Source → Program (Except Fault Settings)
  | [] => return .ok s
  | source :: rest => do
    match ← source.load s with
    | .ok s => load s rest
    | .error fault => return .error fault

section sources

variable {answer : (c : Call) → c.Answer}

def Source.Holds (answer : (c : Call) → c.Answer) : Source → Tree → Prop
  | file format path, tree => (readFile format path).eval answer = .ok tree
  | environment program entries, tree => tree = ofVariables (variableStart program) entries

def variableTree? (start : String) (entry : String × String) : Option Tree :=
  (settingName? start entry.1).map fun setting => .nest (variableValue entry.2) (names setting)

theorem ofVariables_eq (start : String) (entries : List (String × String)) :
    ofVariables start entries = (entries.filterMap (variableTree? start)).foldl Tree.overlay (.object []) := by
  rw [ofVariables, List.foldl_filterMap]
  congr 1
  funext tree entry
  obtain ⟨name, text⟩ := entry
  dsimp only [variableTree?]
  cases settingName? start name <;> rfl

theorem tidy_variableTree? {start : String} {entries : List (String × String)} :
    ∀ tree ∈ entries.filterMap (variableTree? start), Tidy tree := by
  intro tree member
  obtain ⟨entry, -, made⟩ := List.mem_filterMap.mp member
  obtain ⟨setting, -, rfl⟩ := Option.map_eq_some_iff.mp made
  exact (tidy_variableValue entry.2).nest _

/-- Of the variables of a program, the last one with a say decides. -/
theorem at?_ofVariables (start : String) (entries : List (String × String)) (path : List String)
    {value? : Option Tree} (plain : ∀ value ∈ value?, isScalar value = true) :
    (ofVariables start entries).at? path = value? ↔
      latest? (.object [] :: entries.filterMap (variableTree? start)) path = value? := by
  rw [ofVariables_eq]
  exact Tree.at?_foldl_overlay _ tidy_variableTree? path plain

/-- Trees of sources are tidy. -/
theorem Source.Holds.tidy {source : Source} {tree : Tree} (holds : source.Holds answer tree) : Tidy tree := by
  cases source with
  | file format path =>
    rw [Source.Holds, readFile, Program.eval_bind] at holds
    cases contents : (Program.call (.file (.read path))).eval answer with
    | error cause =>
      rw [contents] at holds
      cases holds
    | ok bytes =>
      rw [contents] at holds
      cases decoded : Utf8.decode? bytes with
      | none =>
        simp only [decoded] at holds
        cases holds
      | some t =>
        simp only [decoded] at holds
        cases read : format.read t with
        | error problem =>
          rw [read] at holds
          cases holds
        | ok found =>
          rw [read] at holds
          cases holds
          exact tidy_formatRead format read
  | environment program entries =>
    rw [Source.Holds, ofVariables_eq] at holds
    rw [holds]
    exact Tidy.empty.foldl_overlay tidy_variableTree?

theorem tidy_of_holds {sources : List Source} {trees : List Tree}
    (each : List.Forall₂ (Source.Holds answer) sources trees) : ∀ tree ∈ trees, Tidy tree := by
  induction each with
  | nil => exact nofun
  | cons holds _ ih => exact List.forall_mem_cons.mpr ⟨holds.tidy, ih⟩

/-- Loading a source puts its tree over those that are there. -/
theorem Source.layers_of_load {source : Source} {s next : Settings}
    (loaded : (source.load s).eval answer = .ok next) :
    ∃ tree, source.Holds answer tree ∧ next.layers.map (·.tree) = s.layers.map (·.tree) ++ [tree] := by
  cases source with
  | file format path =>
    rw [Source.load, withFile, Program.eval_bind] at loaded
    cases read : (readFile format path).eval answer with
    | error fault =>
      rw [read] at loaded
      cases loaded
    | ok tree =>
      rw [read] at loaded
      cases loaded
      exact ⟨tree, read, List.map_append⟩
  | environment program entries =>
    change s.withVariables program entries = .ok next at loaded
    rw [withVariables] at loaded
    split at loaded
    · cases loaded
    · cases loaded
      exact ⟨_, rfl, List.map_append⟩

/-- Loading puts the trees of the sources over those that are there, in order. -/
theorem layers_of_load {sources : List Source} {s last : Settings} (loaded : (load s sources).eval answer = .ok last) :
    ∃ trees, List.Forall₂ (Source.Holds answer) sources trees ∧
      last.layers.map (·.tree) = s.layers.map (·.tree) ++ trees := by
  induction sources generalizing s with
  | nil =>
    cases loaded
    exact ⟨[], .nil, (List.append_nil _).symm⟩
  | cons source rest ih =>
    rw [load, Program.eval_bind] at loaded
    cases first : (source.load s).eval answer with
    | error fault =>
      rw [first] at loaded
      cases loaded
    | ok next =>
      rw [first] at loaded
      obtain ⟨trees, each, layers⟩ := ih loaded
      obtain ⟨tree, holds, added⟩ := source.layers_of_load first
      exact ⟨tree :: trees, .cons holds each, by rw [layers, added, List.append_assoc]; rfl⟩

end sources

/-! ### Lookups -/

/-- What is merged is a scalar, or nothing, exactly where the last layer with a say has it. -/
theorem at?_merged {s : Settings} (tidy : ∀ layer ∈ s.layers, Tidy layer.tree) (path : List String)
    {value? : Option Tree} (plain : ∀ value ∈ value?, isScalar value = true) :
    s.merged.at? path = value? ↔ latest? (.object [] :: s.layers.map (·.tree)) path = value? := by
  have folded : s.merged = (s.layers.map (·.tree)).foldl Tree.overlay (.object []) := List.foldl_map.symm
  rw [folded]
  exact Tree.at?_foldl_overlay _ (List.forall_mem_map.mpr tidy) path plain

/-! ### Variables -/

/-- Keys that a variable can spell: they have a name, and no letter in upper case. -/
structure Spellable (key : String) : Prop where
  named : flatten key ≠ ""
  lower : (flatten key).toList.map (fun c => c.toUpper.toLower) = (flatten key).toList

theorem splitOn_flatten (key : String) : (flatten key).toList.splitOn '.' = [(flatten key).toList] := by
  refine List.splitOnP_eq_singleton fun c member => ?_
  rw [flatten, String.toList_ofList] at member
  obtain ⟨d, -, rfl⟩ := List.mem_map.mp member
  split
  · rfl
  · rename_i other
    exact beq_eq_false_iff_ne.mpr other

/-- Without its periods a key is a single name. -/
theorem names_flatten (key : String) : names (flatten key) = [flatten key] := by
  rw [names, splitOn_flatten, List.map_singleton, String.ofList_toList]

theorem Spellable.isEmpty {key : String} (spelled : Spellable key) : (flatten key).isEmpty = false :=
  Bool.eq_false_iff.mpr fun empty => spelled.named (String.isEmpty_iff.mp empty)

/-- The variable that messages name for a key holds it. -/
theorem settingName?_variableName (program : String) {key : String} (spelled : Spellable key) :
    settingName? (variableStart program) (variableName (variableStart program) key) = some (flatten key) := by
  have upper : Text.lower (flatten key).toUpper.toList = (flatten key).toList := by
    rw [Text.lower, String.toUpper, String.toList_map, List.map_map]
    exact spelled.lower
  have rest : Text.dropPrefix? (Text.lower (variableStart program).toList)
      (Text.lower (variableName (variableStart program) key).toList) = some (flatten key).toList := by
    rw [Text.dropPrefix?, List.isPrefixOf?_eq_some_iff_append_eq, variableName, String.toList_append, ← upper]
    exact List.map_append.symm
  have nonempty : (flatten key).toList.isEmpty = false := by
    rw [List.isEmpty_eq_false_iff]
    exact fun empty => spelled.named (String.toList_eq_nil_iff.mp empty)
  simp only [settingName?, rest, splitOn_flatten, Option.bind_eq_bind, Option.bind_some, List.any_cons, nonempty,
    List.any_nil, Bool.or_false, Bool.false_eq_true, if_false, String.ofList_toList]

/-- No name on the way to a variable's setting is empty. -/
theorem names_of_settingName? {start name setting : String} (found : settingName? start name = some setting) :
    ∃ first rest, names setting = first :: rest ∧ first.isEmpty = false := by
  obtain ⟨t, -, found⟩ := Option.bind_eq_some_iff.mp found
  split at found
  · cases found
  · rename_i filled
    cases found
    obtain ⟨first, rest, pieces⟩ := List.exists_cons_of_ne_nil (List.splitOn_ne_nil '.' t)
    rw [pieces, List.any_cons, Bool.or_eq_true, not_or] at filled
    refine ⟨String.ofList first, rest.map String.ofList, by rw [names, String.toList_ofList, pieces]; rfl, ?_⟩
    rw [Bool.eq_false_iff, ne_eq, String.isEmpty_iff, String.ofList_eq_empty_iff]
    exact fun empty => filled.1 (List.isEmpty_iff.mpr empty)

/-- A variable whose setting goes by another first name is silent about a key. -/
theorem speaks_variableTree? {start : String} {entry : String × String} {tree : Tree} {name : String}
    (named : name.isEmpty = false) (made : variableTree? start entry = some tree)
    (other : ∀ setting ∈ settingName? start entry.1, (names setting).head? ≠ some name) :
    tree.speaks [name] = false := by
  obtain ⟨setting, found, rfl⟩ := Option.map_eq_some_iff.mp made
  obtain ⟨first, rest, path, filled⟩ := names_of_settingName? found
  have away : first ≠ name := fun same => other setting found (by rw [path, List.head?_cons, same])
  simp [path, Tree.nest, filled, Tree.speaks, Tree.isObject, Json.get?, named, away]

/-- The variables say a key by `PREFIX_KEY`, and none of those behind it speaks of the key again. -/
def Says (program key text : String) (entries : List (String × String)) : Prop :=
  ∃ before behind, entries = before ++ (variableName (variableStart program) key, text) :: behind ∧
    ∀ entry ∈ behind, ∀ setting ∈ settingName? (variableStart program) entry.1,
      (names setting).head? ≠ some (flatten key)

/-- Each variable of a program is kept under its name in lower case, without nesting. -/
theorem at?_ofVariables_variable {program key text : String} {entries : List (String × String)}
    (spelled : Spellable key) (said : Says program key text entries) (plain : isScalar (variableValue text) = true) :
    (ofVariables (variableStart program) entries).at? (names (flatten key)) = some (variableValue text) := by
  obtain ⟨before, behind, rfl, others⟩ := said
  have kept : variableTree? (variableStart program) (variableName (variableStart program) key, text) =
      some (.nest (variableValue text) (names (flatten key))) := by
    rw [variableTree?, settingName?_variableName program spelled, Option.map_some]
  rw [at?_ofVariables _ _ _ fun _ member => Option.some.inj member ▸ plain, List.filterMap_append,
    List.filterMap_cons_some kept, ← List.cons_append]
  refine Tree.latest?_of_last (Tree.at?_nest _ _) (fun tree member => ?_) _
  obtain ⟨entry, within, made⟩ := List.mem_filterMap.mp member
  rw [names_flatten]
  exact speaks_variableTree? spelled.isEmpty made (others entry within)

/-! ### Precedence -/

/-- The trees before, of and behind a source. -/
theorem split_of_holds {answer : (c : Call) → c.Answer} {earlier later : List Source} {source : Source}
    {trees : List Tree} (each : List.Forall₂ (Source.Holds answer) (earlier ++ source :: later) trees) :
    ∃ before tree behind, trees = before ++ tree :: behind ∧ source.Holds answer tree ∧
      List.Forall₂ (Source.Holds answer) later behind := by
  induction earlier generalizing trees with
  | nil =>
    obtain _ | ⟨holds, rest⟩ := each
    exact ⟨[], _, _, rfl, holds, rest⟩
  | cons first earlier ih =>
    obtain _ | ⟨-, rest⟩ := each
    obtain ⟨before, tree, behind, rfl, holds, others⟩ := ih rest
    exact ⟨_ :: before, tree, behind, rfl, holds, others⟩

def Source.Silent (answer : (c : Call) → c.Answer) (path : List String) (source : Source) : Prop :=
  ∀ tree, source.Holds answer tree → tree.speaks path = false

theorem speaks_of_silent {answer : (c : Call) → c.Answer} {path : List String} {sources : List Source}
    {trees : List Tree} (each : List.Forall₂ (Source.Holds answer) sources trees)
    (silent : ∀ source ∈ sources, source.Silent answer path) : ∀ tree ∈ trees, tree.speaks path = false := by
  induction each with
  | nil => exact nofun
  | cons holds _ ih =>
    obtain ⟨first, others⟩ := List.forall_mem_cons.mp silent
    exact List.forall_mem_cons.mpr ⟨first _ holds, ih others⟩

/-- A setting is taken from the last source with a say in its nested spelling; if nothing is there, from the last one
with a say in the spelling with underscores, which is how variables say it; and if nothing is there either, it is
missing. -/
theorem get_precedence {α : Type} (answer : (c : Call) → c.Answer) (sources : List Source) (s : Settings)
    (loaded : (load empty sources).eval answer = .ok s) (read : Reader α) (key : String) :
    ∃ trees, List.Forall₂ (Source.Holds answer) sources trees ∧
      (∀ value, isScalar value = true → latest? (.object [] :: trees) (names key) = some value →
        s.get read key = s.readAt read ((names key).filter fun name => !name.isEmpty) value) ∧
      (latest? (.object [] :: trees) (names key) = none → ∀ value, isScalar value = true →
        latest? (.object [] :: trees) (names (flatten key)) = some value →
          s.get read key = s.readAt read ((names (flatten key)).filter fun name => !name.isEmpty) value) ∧
      (latest? (.object [] :: trees) (names key) = none → Spellable key →
        ∀ earlier program entries later, sources = earlier ++ .environment program entries :: later →
          (∀ source ∈ later, source.Silent answer (names (flatten key))) →
          ∀ text, Says program key text entries → isScalar (variableValue text) = true →
            s.get read key = s.readAt read [flatten key] (variableValue text)) ∧
      (latest? (.object [] :: trees) (names key) = none → latest? (.object [] :: trees) (names (flatten key)) = none →
        ∃ spellings, s.get read key = .error (.missing (flatten key) spellings)) := by
  obtain ⟨trees, each, layers⟩ := layers_of_load loaded
  have layers : s.layers.map (·.tree) = trees := layers
  have tidy := tidy_of_holds each
  have merged (path : List String) {value? : Option Tree} (plain : ∀ value ∈ value?, isScalar value = true) :
      latest? (.object [] :: trees) path = value? → s.merged.at? path = value? := by
    rw [← layers] at tidy ⊢
    exact (at?_merged (List.forall_mem_map.mp tidy) path plain).mpr
  have scalar (path : List String) {value : Tree} (plain : isScalar value = true) :
      latest? (.object [] :: trees) path = some value → s.merged.at? path = some value :=
    merged path fun _ member => Option.some.inj member ▸ plain
  have nothing (path : List String) : latest? (.object [] :: trees) path = none → s.merged.at? path = none :=
    merged path fun _ member => nomatch member
  have flat (absent : latest? (.object [] :: trees) (names key) = none) {value : Tree} (plain : isScalar value = true)
      (decided : latest? (.object [] :: trees) (names (flatten key)) = some value) :
      s.get read key = s.readAt read ((names (flatten key)).filter fun name => !name.isEmpty) value := by
    simp only [get, nothing _ absent, scalar _ plain decided]
  refine ⟨trees, each, fun value plain decided => ?nested, fun absent value plain decided => flat absent plain decided,
    fun absent spelled earlier program entries later order silent text said plain => ?said, fun absent none => ?missing⟩
  case nested => simp only [get, scalar _ plain decided]
  case said =>
    subst order
    obtain ⟨before, tree, behind, rfl, rfl, others⟩ := split_of_holds each
    have decided := Tree.latest?_of_last (at?_ofVariables_variable spelled said plain) (speaks_of_silent others silent)
      (.object [] :: before)
    rw [flat absent plain decided, names_flatten]
    simp [spelled.isEmpty]
  case missing =>
    simp only [get, nothing _ absent, nothing _ none]
    exact ⟨_, rfl⟩

def limitedFile : (c : Call) → c.Answer
  | .file (.read path) =>
    if path = "c.yaml" then .ok (Utf8.encode "buffer:\n  max_size: 4096\n".toList)
    else .error (.number ErrorNumber.noEntry)
  | c => Host.reply {} c

def limitedFile.sources : List Source :=
  [.file .yaml "c.yaml", .environment "sysprobe" [("SYSPROBE_BUFFER_MAX_SIZE", "1")]]

def limitedFile.trees : List Tree :=
  [((readFile .yaml "c.yaml").eval limitedFile).toOption.getD .null,
    ofVariables (variableStart "sysprobe") [("SYSPROBE_BUFFER_MAX_SIZE", "1")]]

private theorem limitedFile.trees_eq {trees : List Tree}
    (each : List.Forall₂ (Source.Holds limitedFile) limitedFile.sources trees) : trees = limitedFile.trees := by
  obtain _ | ⟨first, _ | ⟨second, _ | _⟩⟩ := each
  have first : (readFile .yaml "c.yaml").eval limitedFile = .ok _ := first
  rw [limitedFile.trees, first, second]
  rfl

private theorem loaded_of_isOk {α : Type} {found : Except Fault α} (ok : found.isOk = true) : ∃ a, found = .ok a := by
  cases found with
  | ok a => exact ⟨a, rfl⟩
  | error => cases ok

/-- With the file and the variable, the nested key is set, and one that neither names is missing; with the variable
alone, the key is what the variable says. -/
theorem get_precedence_limitedFile :
    (∃ s, (load empty limitedFile.sources).eval limitedFile = .ok s ∧
      (∃ value, isScalar value = true ∧
        s.get Reader.word "buffer.max_size" = s.readAt Reader.word ["buffer", "max_size"] value) ∧
      ∃ spellings, s.get Reader.word "log.level" = .error (.missing "log_level" spellings)) ∧
    ∃ s, (load empty (limitedFile.sources.drop 1)).eval limitedFile = .ok s ∧
      s.get Reader.word "buffer.max_size" = s.readAt Reader.word ["buffer_max_size"] (variableValue "1") := by
  have scalar : (latest? (.object [] :: limitedFile.trees) (names "buffer.max_size")).map isScalar = some true := by
    decide +kernel
  have absent : (latest? (.object [] :: limitedFile.trees) (names "log.level")).isNone = true ∧
      (latest? (.object [] :: limitedFile.trees) (names (flatten "log.level"))).isNone = true := by decide +kernel
  have spelled : ((names "buffer.max_size").filter fun name => !name.isEmpty) = ["buffer", "max_size"] := by
    decide +kernel
  refine ⟨?both, ?alone⟩
  case both =>
    have found : ((load empty limitedFile.sources).eval limitedFile).isOk = true := by decide +kernel
    obtain ⟨s, loaded⟩ := loaded_of_isOk found
    refine ⟨s, loaded, ?_, ?_⟩
    · obtain ⟨trees, each, nested, -⟩ :=
        get_precedence limitedFile limitedFile.sources s loaded Reader.word "buffer.max_size"
      rw [limitedFile.trees_eq each] at nested
      obtain ⟨value, decided, plain⟩ := Option.map_eq_some_iff.mp scalar
      exact ⟨value, plain, spelled ▸ nested value plain decided⟩
    · obtain ⟨trees, each, -, -, -, missing⟩ :=
        get_precedence limitedFile limitedFile.sources s loaded Reader.word "log.level"
      rw [limitedFile.trees_eq each] at missing
      exact missing (Option.isNone_iff_eq_none.mp absent.1) (Option.isNone_iff_eq_none.mp absent.2)
  case alone =>
    have found : ((load empty (limitedFile.sources.drop 1)).eval limitedFile).isOk = true := by decide +kernel
    have unnested : (latest? (.object [] :: limitedFile.trees.drop 1) (names "buffer.max_size")).isNone = true := by
      decide +kernel
    obtain ⟨s, loaded⟩ := loaded_of_isOk found
    obtain ⟨trees, each, -, -, said, -⟩ :=
      get_precedence limitedFile (limitedFile.sources.drop 1) s loaded Reader.word "buffer.max_size"
    obtain _ | ⟨rfl, _ | _⟩ := each
    exact ⟨s, loaded, said (Option.isNone_iff_eq_none.mp unnested) ⟨by decide +kernel, by decide +kernel⟩ [] _ _ [] rfl
      nofun "1" ⟨[], [], by decide +kernel, nofun⟩ (by decide +kernel)⟩

/-- Each source alone gives its own value; of both, the variable is overlooked although it was added later. -/
theorem variable_overlooked :
    let found (sources : List Source) :=
      ((load empty sources).eval limitedFile).map fun s => s.get Reader.word "buffer.max_size"
    (limitedFile.sources.map fun source => found [source]) = [.ok (.ok 4096), .ok (.ok 1)] ∧
      found limitedFile.sources = .ok (.ok 4096) := by
  decide +kernel

end HostProbe.Settings
