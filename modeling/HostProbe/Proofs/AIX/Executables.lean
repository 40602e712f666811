import HostProbe.AIX
import HostProbe.Host
import HostProbe.Proofs.Query
import Mathlib.Data.List.Basic

/-! Executables that are looked for as a shell would look for them. A command with a slash is a path; a bare one is
sought in the directories of the search path. Those of them that are relative are not seen from the working directory
of the process, so the answer is the one of a shell only where there are none. -/
namespace HostProbe

/-! ### Paths -/

namespace Path

/-- What is joined is absolute as soon as either part is. -/
theorem isAbsolute_join {base : String} (named : base ≠ "") (relative : String) :
    isAbsolute (join base relative) = (isAbsolute relative || isAbsolute base) := by
  have first : ∀ text : String, isAbsolute (base ++ text) = isAbsolute base := by
    intro text
    obtain ⟨c, rest, spelled⟩ := List.exists_cons_of_ne_nil (mt String.toList_eq_nil_iff.mp named)
    rw [isAbsolute, isAbsolute, String.toList_append, spelled]
    rfl
  rw [join]
  split
  case isTrue absolute => rw [absolute, Bool.true_or]
  case isFalse below =>
    rw [Bool.not_eq_true] at below
    rw [below, Bool.false_or]
    split
    · exact first relative
    · rw [String.append_assoc]
      exact first _

end Path

namespace AIX

variable {answer : (c : Call) → c.Answer}

/-! ### Candidates -/

theorem firstAmong_eq (passes : String → Bool) (paths : List String) :
    firstAmong (m := Id) passes paths = paths.find? passes := by
  induction paths with
  | nil => rfl
  | cons path paths ih =>
    rw [List.find?_cons, ← ih, firstAmong]
    cases passes path with
    | true => rfl
    | false => rfl

/-- Against fixed answers the first candidate that passes is found. -/
theorem firstAmong_eval (passes : String → Program Bool) (paths : List String) :
    (firstAmong passes paths).eval answer = paths.find? fun path => (passes path).eval answer := by
  induction paths with
  | nil => rfl
  | cons path paths ih =>
    rw [List.find?_cons, ← ih, firstAmong, Program.eval_bind]
    cases (passes path).eval answer with
    | true => rfl
    | false => rfl

/-- Path of the executable that runs a command, where it is known what is executable. -/
def resolved (command : String) (directory searchPath : Option String) (isExecutable : String → Bool) : Option String :=
  resolveExecutable (m := Id) command directory searchPath isExecutable

/-- Asking the host for each candidate gives what is known from its answers. -/
theorem resolveExecutable_eval (command : String) (directory searchPath : Option String)
    (passes : String → Program Bool) : (resolveExecutable command directory searchPath passes).eval answer =
      resolved command directory searchPath fun path => (passes path).eval answer := by
  rw [resolveExecutable, resolved, resolveExecutable]
  match CommandPlace.of? command directory searchPath with
  | none => rfl
  | some (.file path) => rfl
  | some (.among candidates) =>
    exact (firstAmong_eval passes candidates).trans (firstAmong_eq _ candidates).symm

/-! ### Search paths -/

/-- Directories that a search path names, in order; an entry without text names none. -/
def directoriesOf (searchPath : String) : List String :=
  ((searchPath.toList.splitOn ':').filter fun d => !d.isEmpty).map String.ofList

/-- The same directories as a process in a working directory sees them; while that is not known, relative ones lead
nowhere. -/
def directoriesFrom (directory : Option String) (searchPath : String) : List String :=
  (directoriesOf searchPath).filterMap fun d => if Path.isAbsolute d then some d else directory.map (Path.join · d)

def Bare (command : String) : Prop := command ≠ "" ∧ '/' ∉ command.toList

instance (command : String) : Decidable (Bare command) := inferInstanceAs (Decidable (_ ∧ _))

/-- What a shell in the working directory of the process would find: an absolute path, for a bare command the first one
in the search path that is executable, and nothing only if there is nothing or something needed is not known. -/
structure Chosen (command : String) (directory searchPath : Option String) (isExecutable : String → Bool)
    (found : Option String) : Prop where
  absolute : ∀ path, found = some path → Path.isAbsolute path = true
  first : Bare command → ∀ dirs, searchPath = some dirs →
    found = ((directoriesFrom directory dirs).map (Path.join · command)).find? isExecutable
  none : found = none → command = "" ∨ (Bare command ∧ searchPath = none) ∨
    (¬Bare command ∧ directory = none) ∨
    ∃ dirs, searchPath = some dirs ∧ ∀ d ∈ directoriesFrom directory dirs, isExecutable (Path.join d command) = false

theorem directoriesFrom_of_absolute {directory : Option String} {searchPath : String}
    (absolute : ∀ d ∈ directoriesOf searchPath, Path.isAbsolute d = true) :
    directoriesFrom directory searchPath = directoriesOf searchPath := by
  rw [directoriesFrom]
  refine (List.filterMap_congr ?_).trans List.filterMap_some
  exact fun d member => if_pos (absolute d member)

theorem ne_empty_of_mem_directoriesOf {searchPath d : String} (member : d ∈ directoriesOf searchPath) : d ≠ "" := by
  obtain ⟨text, kept, rfl⟩ := List.mem_map.mp member
  have named := (List.mem_filter.mp kept).2
  intro empty
  rw [String.ofList_eq_empty_iff.mp empty] at named
  cases named

/-! ### Commands -/

section commands

variable {command : String} {directory searchPath : Option String} {isExecutable : String → Bool}

theorem Bare.not_absolute (bare : Bare command) : Path.isAbsolute command = false :=
  decide_eq_false fun first => bare.2 (List.mem_of_head? first)

theorem resolved_empty :
    resolved "" directory searchPath isExecutable = none := rfl

theorem resolved_of_slash (slash : '/' ∈ command.toList) :
    resolved command directory searchPath isExecutable =
      if Path.isAbsolute command then some command else directory.map (Path.join · command) := by
  have named : command.toList.isEmpty = false := List.isEmpty_eq_false_iff.mpr (List.ne_nil_of_mem slash)
  cases absolute : Path.isAbsolute command with
  | true =>
    have place : CommandPlace.of? command directory searchPath = some (.file command) := by
      simp [CommandPlace.of?, named, of_decide_eq_true absolute]
    rw [resolved, resolveExecutable, place]
    rfl
  | false =>
    have place : CommandPlace.of? command directory searchPath =
        directory.map fun d => .file (Path.join d command) := by
      simp [CommandPlace.of?, named, of_decide_eq_false absolute, slash]
    rw [resolved, resolveExecutable, place]
    cases directory with
    | none => rfl
    | some d => rfl

/-- A bare command is sought in the directories as the search path spells them. -/
theorem resolved_of_bare (bare : Bare command) :
    resolved command directory searchPath isExecutable =
      searchPath.bind fun dirs => ((directoriesOf dirs).map (Path.join · command)).find? isExecutable := by
  have named : command.toList.isEmpty = false :=
    List.isEmpty_eq_false_iff.mpr (mt String.toList_eq_nil_iff.mp bare.1)
  have relative : ¬command.toList.head? = some '/' := fun first => bare.2 (List.mem_of_head? first)
  have place : CommandPlace.of? command directory searchPath = searchPath.map fun dirs =>
      .among ((directoriesOf dirs).map (Path.join · command)) := by
    simp [CommandPlace.of?, named, relative, bare.2, directoriesOf, Function.comp_def]
  rw [resolved, resolveExecutable, place]
  cases searchPath with
  | none => rfl
  | some dirs => exact firstAmong_eq isExecutable _

/-- A command with a slash is what a shell would find, and so is one without text. -/
theorem chosen_of_not_bare (known : ∀ d, directory = some d → Path.isAbsolute d = true) (path : ¬Bare command) :
    Chosen command directory searchPath isExecutable
      (resolved command directory searchPath isExecutable) := by
  by_cases empty : command = ""
  · subst empty
    rw [resolved_empty]
    exact ⟨nofun, fun bare => absurd bare path, fun _ => .inl rfl⟩
  have slash : '/' ∈ command.toList := not_not.mp fun free => path ⟨empty, free⟩
  rw [resolved_of_slash slash]
  refine ⟨fun found answered => ?_, fun bare => absurd bare path, fun missing => ?_⟩
  · cases rooted : Path.isAbsolute command with
    | true =>
      rw [if_pos rooted] at answered
      exact Option.some.inj answered ▸ rooted
    | false =>
      rw [rooted] at answered
      obtain ⟨d, told, rfl⟩ := Option.map_eq_some_iff.mp answered
      have absolute := known d told
      have named : d ≠ "" := fun none => by simp [none, Path.isAbsolute] at absolute
      rw [Path.isAbsolute_join named, absolute, Bool.or_true]
  · split at missing
    · cases missing
    · exact .inr (.inr (.inl ⟨path, Option.map_eq_none_iff.mp missing⟩))

/-- A bare command is what a shell would find if no directory of the search path is relative. -/
theorem chosen_of_absolute (bare : Bare command)
    (absolute : ∀ dirs, searchPath = some dirs → ∀ d ∈ directoriesOf dirs, Path.isAbsolute d = true) :
    Chosen command directory searchPath isExecutable
      (resolved command directory searchPath isExecutable) := by
  rw [resolved_of_bare bare]
  cases searchPath with
  | none => exact ⟨nofun, nofun, fun _ => .inr (.inl ⟨bare, rfl⟩)⟩
  | some dirs =>
    have all := absolute dirs rfl
    have seen : directoriesFrom directory dirs = directoriesOf dirs := directoriesFrom_of_absolute all
    refine ⟨fun found answered => ?_, fun _ _ same => ?_, fun missing => .inr (.inr (.inr ⟨dirs, rfl, ?_⟩))⟩
    · obtain ⟨d, member, rfl⟩ := List.mem_map.mp (List.mem_of_find?_eq_some answered)
      rw [Path.isAbsolute_join (ne_empty_of_mem_directoriesOf member), all d member, Bool.or_true]
    · cases same
      rw [seen]
      rfl
    · rw [seen]
      intro d member
      exact Bool.not_eq_true _ ▸ List.find?_eq_none.mp missing _ (List.mem_map_of_mem member)

/-- A relative directory of the search path leads to a relative path. -/
theorem absolute_of_chosen (bare : Bare command) {dirs : String} (search : searchPath = some dirs)
    (chosen : ∀ isExecutable, Chosen command directory searchPath isExecutable
      (resolved command directory searchPath isExecutable)) :
    ∀ d ∈ directoriesOf dirs, Path.isAbsolute d = true := by
  intro d member
  -- Of all files, only the one below this directory is executable.
  have found : resolved command directory searchPath (· == Path.join d command) =
      some (Path.join d command) := by
    rw [resolved_of_bare bare, search, Option.bind_some]
    cases answered : ((directoriesOf dirs).map (Path.join · command)).find? (· == Path.join d command) with
    | none => exact absurd (beq_self_eq_true _) (List.find?_eq_none.mp answered _ (List.mem_map_of_mem member))
    | some path =>
      have same := List.find?_some answered
      rw [beq_iff_eq.mp same]
  have rooted := (chosen _).absolute _ found
  rw [Path.isAbsolute_join (ne_empty_of_mem_directoriesOf member), bare.not_absolute, Bool.false_or] at rooted
  exact rooted

end commands

/-! ### Processes -/

/-- The executable of a process is resolved from what could be told of it, and tested on the host. -/
theorem result_exe (p : Probe) (pid : Pid) {args : List String} {directory : Option String}
    {environment : Option (Table String)} (arguments : (p.commandLine pid).result answer = .ok args)
    (located : (p.workingDirectory pid).answer?.result answer = .ok directory)
    (set : (p.environment pid).answer?.result answer = .ok environment) :
    (p.exe pid).result answer = match resolved (args.head?.getD "") directory
        (environment.bind fun v => Table.get? v "PATH") fun path => (Probe.isExecutable path).eval answer with
      | some path => .ok path
      | none => .error (.report (.unsupported "proc_exe")) := by
  rw [Probe.exe, Query.result_bind_of_ok answer arguments, Query.result_bind_of_ok answer located,
    Query.result_bind_of_ok answer set, Query.result_bind, Query.result_ofProgram, resolveExecutable_eval]
  match resolved (args.head?.getD "") directory (environment.bind fun v => Table.get? v "PATH")
    fun path => (Probe.isExecutable path).eval answer with
  | some path => rfl
  | none => rfl

/-- A command is resolved as a shell in the process's working directory would do it, whatever is executable, exactly
when it is no bare one that is sought in a relative directory; a bare one is found in the first directory under which
it is executable, as the search path spells that. This decides the executable of a process. -/
theorem executable_chosen {command : String} {directory searchPath : Option String}
    (known : ∀ d, directory = some d → Path.isAbsolute d = true) :
    ((∀ isExecutable, Chosen command directory searchPath isExecutable
        (resolved command directory searchPath isExecutable)) ↔
      (Bare command → ∀ dirs, searchPath = some dirs → ∀ d ∈ directoriesOf dirs, Path.isAbsolute d = true)) ∧
    (Bare command → ∀ isExecutable, resolved command directory searchPath isExecutable =
      searchPath.bind fun dirs => ((directoriesOf dirs).map (Path.join · command)).find? isExecutable) ∧
    ∀ (answer : (c : Call) → c.Answer) (p : Probe) (pid : Pid) (args : List String)
      (environment : Option (Table String)),
      (p.commandLine pid).result answer = .ok args → args.head?.getD "" = command →
      (p.workingDirectory pid).answer?.result answer = .ok directory →
      (p.environment pid).answer?.result answer = .ok environment →
      (environment.bind fun v => Table.get? v "PATH") = searchPath →
      (p.exe pid).result answer = match resolved command directory searchPath
          fun path => (Probe.isExecutable path).eval answer with
        | some path => .ok path
        | none => .error (.report (.unsupported "proc_exe")) := by
  refine ⟨⟨fun chosen bare dirs search => absolute_of_chosen bare search chosen, fun absolute isExecutable => ?_⟩,
    fun bare _ => resolved_of_bare bare, ?_⟩
  · by_cases bare : Bare command
    · exact chosen_of_absolute bare (absolute bare)
    · exact chosen_of_not_bare known bare
  · rintro answer p pid args environment arguments rfl located set rfl
    exact result_exe p pid arguments located set

/-- A host on which the given files are executable, and every process runs the same bare command in a home directory
with a search path. -/
def shellHost (searchPath : String) (executables : List String) : (c : Call) → c.Answer
  | .file (.read _) => .ok (List.replicate 184 0 ++ Utf8.encode "ksh".toList ++ List.replicate 181 0)
  | .file (.readLink _) => .ok (Utf8.encode "/home/me".toList)
  | .file (.openFile _) => .ok ()
  | .file (.readAt _ address count) =>
    let entry := Utf8.encode ("PATH=" ++ searchPath).toList
    .ok (((Bytes.ofNat 4 8 ++ Bytes.ofNat 4 0 ++ entry ++ [0]).drop address).take count)
  | .file (.info path) => .ok { kind := .regular, executable := executables.contains path }
  | c => Host.reply {} c

/-- Behind an entry without text and a directory without the command, it is found in the second one. -/
theorem executable_chosen_ksh :
    (∀ d, some "/home/me" = some d → Path.isAbsolute d = true) ∧
      (∀ d ∈ directoriesOf ":/bin:/usr/bin", Path.isAbsolute d = true) ∧
      Chosen "ksh" (some "/home/me") (some ":/bin:/usr/bin") (· == "/usr/bin/ksh") (some "/usr/bin/ksh") ∧
      (Probe.exe ⟨⟨"/proc"⟩⟩ 42).result (shellHost ":/bin:/usr/bin" ["/usr/bin/ksh"]) = .ok "/usr/bin/ksh" := by
  have known : ∀ d, some "/home/me" = some d → Path.isAbsolute d = true := by decide +kernel
  have absolute : ∀ d ∈ directoriesOf ":/bin:/usr/bin", Path.isAbsolute d = true := by decide +kernel
  have bare : Bare "ksh" := by decide +kernel
  obtain ⟨chosen, sought, process⟩ := @executable_chosen "ksh" _ (some ":/bin:/usr/bin") known
  have found : resolved "ksh" (some "/home/me") (some ":/bin:/usr/bin") (· == "/usr/bin/ksh") =
      some "/usr/bin/ksh" := (sought bare _).trans (by decide +kernel)
  refine ⟨known, absolute, ?_, ?_⟩
  · have first := chosen.mpr (fun _ dirs search => Option.some.inj search ▸ absolute) (· == "/usr/bin/ksh")
    rw [found] at first
    exact first
  · have ran := process (shellHost ":/bin:/usr/bin" ["/usr/bin/ksh"]) ⟨⟨"/proc"⟩⟩ 42 ["ksh"]
      (some [("PATH", ":/bin:/usr/bin")]) (by decide +kernel) rfl (by decide +kernel) (by decide +kernel)
      (by decide +kernel)
    rw [ran, sought bare]
    decide +kernel

/-- What is executable in a relative directory of the search path is not found from the directory of the process, so
that another file is taken for it or nothing is found; and what is found there has a relative path. -/
theorem relative_directory_misread :
    ¬Chosen "ksh" (some "/home/me") (some "bin:/usr/bin") (["/home/me/bin/ksh", "/usr/bin/ksh"].contains ·)
        (resolved "ksh" (some "/home/me") (some "bin:/usr/bin") (["/home/me/bin/ksh", "/usr/bin/ksh"].contains ·)) ∧
      (Probe.exe ⟨⟨"/proc"⟩⟩ 42).result (shellHost "bin:/usr/bin" ["/home/me/bin/ksh", "/usr/bin/ksh"]) =
        .ok "/usr/bin/ksh" ∧
      ¬Chosen "ksh" (some "/home/me") (some "bin") (["bin/ksh"].contains ·)
        (resolved "ksh" (some "/home/me") (some "bin") (["bin/ksh"].contains ·)) ∧
      (Probe.exe ⟨⟨"/proc"⟩⟩ 42).result (shellHost "bin" ["bin/ksh"]) = .ok "bin/ksh" := by
  refine ⟨fun chosen => ?_, by decide +kernel, fun chosen => ?_, by decide +kernel⟩
  · have first := chosen.first (by decide +kernel) _ rfl
    revert first
    decide +kernel
  · have absolute := chosen.absolute "bin/ksh" (by decide +kernel)
    revert absolute
    decide +kernel

end AIX
end HostProbe
