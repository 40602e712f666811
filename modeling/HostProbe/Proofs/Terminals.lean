import HostProbe.Host
import HostProbe.Linux.Descriptors
import HostProbe.Proofs.Files
import HostProbe.Proofs.Procfs.ProcessStats
import HostProbe.Proofs.Text.Utf8
import Mathlib.Algebra.Group.Nat.Defs

/-! Terminals by the numbers of their devices. The kernel prints the number of a process's terminal in 32 bits and with
a sign, and files of devices tell it in 64 bits; the two agree as long as the sign is not set. -/
namespace HostProbe

/-! ### Numbers of devices -/

namespace Device

/-- The number in 32 bits, of which the major number has twelve and the minor number the others around it. -/
def narrow (major minor : Nat) : Nat := (minor >>> 8) <<< 20 ||| major <<< 8 ||| minor &&& 0xff

/-- The number in 64 bits: the 32 bits and what is left of the major number behind all others. -/
def wide (major minor : Nat) : Nat :=
  (major >>> 12) <<< 44 ||| (minor >>> 8) <<< 20 ||| (major &&& 0xfff) <<< 8 ||| minor &&& 0xff

variable {major minor : Nat}

/-- The two numbers share no bit. -/
theorem narrow_eq (majors : major < 1 <<< 12) :
    narrow major minor = minor / 256 * 1048576 + major * 256 + minor % 256 := by
  have octet : minor &&& 0xff = minor % 256 := Nat.and_two_pow_sub_one_eq_mod minor 8
  have low : major <<< 8 ||| minor % 256 = major * 256 + minor % 256 := by
    rw [← Nat.shiftLeft_add_eq_or_of_lt (Nat.mod_lt _ (by decide)), Nat.shiftLeft_eq]
  have all : (minor >>> 8) <<< 20 ||| (major * 256 + minor % 256) =
      minor / 256 * 1048576 + (major * 256 + minor % 256) := by
    have fits : major * 256 + minor % 256 < 2 ^ 20 := by omega
    rw [← Nat.shiftLeft_add_eq_or_of_lt fits, Nat.shiftLeft_eq, Nat.shiftRight_eq_div_pow]
  rw [narrow, octet, Nat.or_assoc, low, all, Nat.add_assoc]

theorem wide_eq_narrow (majors : major < 1 <<< 12) : wide major minor = narrow major minor := by
  have none : major >>> 12 = 0 := by
    rw [Nat.shiftRight_eq_div_pow]
    exact Nat.div_eq_of_lt majors
  have all : major &&& 0xfff = major := by
    rw [Nat.and_two_pow_sub_one_eq_mod major 12]
    exact Nat.mod_eq_of_lt majors
  rw [wide, narrow, none, all, Nat.zero_shiftLeft, Nat.zero_or]

end Device

/-- Read as signed in 32 bits and written out again in 64, a number below the sign stays and others end at the top. -/
theorem Word.ofInt_toInt_32 {n : Nat} (fits : n < 2 ^ 32) :
    Word.ofInt 64 (Word.toInt 32 n) = if n < 2 ^ 31 then n else n + (2 ^ 64 - 2 ^ 32) := by
  have low : (1 <<< 32 : Nat) = 4294967296 := rfl
  have high : (1 <<< 64 : Nat) = 18446744073709551616 := rfl
  rw [Word.ofInt, Word.toInt, Int.bmod, low, high]
  by_cases unsigned : n < 2 ^ 31
  · rw [if_pos unsigned, if_pos (by omega)]
    omega
  · rw [if_neg unsigned, if_neg (by omega)]
    omega

/-! ### Files of devices -/

namespace Posix

variable (answer : (c : Call) → c.Answer)

/-- Paths in directories, in the order they are listed; a directory that cannot be listed has none. -/
def listedIn (dirs : List String) : List String :=
  dirs.flatMap fun dir => ((answer (.file (.list dir))).toOption.getD []).map (Path.join dir)

def isDevice (number : Nat) (path : String) : Bool :=
  match answer (.file (.linkInfo path)) with
  | .ok info => info.kind = .characterDevice && info.rdev = number
  | .error _ => false

theorem deviceAmong_eval (number : Nat) (dir : String) (names : List String) :
    (deviceAmong number dir names).eval answer = (names.map (Path.join dir)).find? (isDevice answer number) := by
  induction names with
  | nil => rfl
  | cons name names ih =>
    have step : (deviceAmong number dir (name :: names)).eval answer =
        if isDevice answer number (Path.join dir name) then some (Path.join dir name)
        else (deviceAmong number dir names).eval answer := by
      rw [deviceAmong, isDevice, Program.eval_bind, Ask.eval_file]
      cases answer (.file (.linkInfo (Path.join dir name))) with
      | error cause => rfl
      | ok info =>
        dsimp only
        split
        · rfl
        · rfl
    rw [step, ih, List.map_cons, List.find?_cons]
    cases isDevice answer number (Path.join dir name) with
    | true => rfl
    | false => rfl

/-- The first device of the number is found, in the order of the directories. -/
theorem deviceIn_eval (number : Nat) (dirs : List String) :
    (deviceIn number dirs).eval answer = (listedIn answer dirs).find? (isDevice answer number) := by
  induction dirs with
  | nil => rfl
  | cons dir dirs ih =>
    have paths : listedIn answer (dir :: dirs) =
        ((answer (.file (.list dir))).toOption.getD []).map (Path.join dir) ++ listedIn answer dirs := rfl
    rw [deviceIn, paths, List.find?_append, Program.eval_bind, Ask.eval_file, Program.eval_bind, deviceAmong_eval]
    cases (((answer (.file (.list dir))).toOption.getD []).map (Path.join dir)).find? (isDevice answer number) with
    | some path => rfl
    | none => exact ih

/-- The path is of a character device of the number, and is listed in one of the directories. -/
def Stands (dirs : List String) (number : Nat) (path : String) : Prop :=
  (∃ dir ∈ dirs, ∃ names, answer (.file (.list dir)) = .ok names ∧ ∃ name ∈ names, path = Path.join dir name) ∧
    ∃ info, answer (.file (.linkInfo path)) = .ok info ∧ info.kind = .characterDevice ∧ info.rdev = number

theorem stands_iff {dirs : List String} {number : Nat} {path : String} :
    Stands answer dirs number path ↔ path ∈ listedIn answer dirs ∧ isDevice answer number path = true := by
  refine and_congr ?_ ?_
  · rw [listedIn, List.mem_flatMap]
    refine exists_congr fun dir => and_congr_right fun _ => ?_
    cases answer (.file (.list dir)) with
    | error cause => simp [Except.toOption]
    | ok names => simp [Except.toOption, eq_comm]
  · rw [isDevice]
    cases answer (.file (.linkInfo path)) with
    | error cause => simp
    | ok info => simp

/-- What is found is a device of the number, and nothing is found only where there is none. -/
theorem stands_of_find? {dirs : List String} {number : Nat} {found : Option String}
    (sought : (listedIn answer dirs).find? (isDevice answer number) = found) :
    (∀ path ∈ found, Stands answer dirs number path) ∧ (found = none ↔ ∀ path, ¬Stands answer dirs number path) := by
  refine ⟨?_, ?_⟩
  · rintro path rfl
    exact (stands_iff answer).mpr ⟨List.mem_of_find?_eq_some sought, List.find?_some sought⟩
  · rw [← sought, List.find?_eq_none]
    exact forall_congr' fun path => by rw [stands_iff, not_and]

end Posix

/-! ### Terminals of processes -/

namespace Linux.Probe

open Posix (listedIn isDevice Stands)

variable {answer : (c : Call) → c.Answer} {p : Probe} {pid : Pid}

theorem result_processText_of_ok (nonnegative : 0 ≤ pid) {name : String} {text : Text}
    (read : (Ask.readText (p.procfs.pidPath pid name)).eval answer = .ok text) :
    (p.processText pid name).result answer = .ok text := by
  rw [processText, checkPid_of_nonnegative nonnegative]
  change Query.result answer (p.live.classifyFor pid (p.procfs.readPid pid name)) = _
  rw [Query.result_classifyFor, Procfs.readPid, Procfs.readText, Query.result_onPath, read]

theorem result_processText_of_error (nonnegative : 0 ≤ pid) {name : String} {cause : IoError}
    (failed : (Ask.readText (p.procfs.pidPath pid name)).eval answer = .error cause) :
    ∃ error, (p.processText pid name).result answer = .error (.report error) := by
  rw [processText, checkPid_of_nonnegative nonnegative]
  change ∃ error, Query.result answer (p.live.classifyFor pid (p.procfs.readPid pid name)) = _
  rw [Query.result_classifyFor, Procfs.readPid, Procfs.readText, Query.result_onPath, failed]
  exact ⟨_, rfl⟩

def Prints (answer : (c : Call) → c.Answer) (p : Probe) (pid : Pid) (r : Procfs.StatRow) : Prop :=
  answer (.file (.read (p.procfs.pidPath pid "stat"))) = .ok (Utf8.encode r.text)

/-- A line that the kernel printed is read as the process's record. -/
theorem result_processStat (nonnegative : 0 ≤ pid) {r : Procfs.StatRow} (printed : Prints answer p pid r) :
    (p.processStat pid).result answer = .ok r.record := by
  have read : (Ask.readText (p.procfs.pidPath pid "stat")).eval answer = .ok r.text := by
    rw [Ask.readText, Program.eval_bind, Ask.eval_file, printed]
    dsimp only
    rw [Utf8.decode?_encode]
    rfl
  rw [processStat, processRecord, Query.result_bind_of_ok answer (result_processText_of_ok nonnegative read),
    Query.result_classifyFor, Query.result_lift, Procfs.ProcessStat.parse_of_denotes r.denotes_record]

def devices (p : Probe) : List String := [p.devfs, Path.join p.devfs "pts"]

theorem result_terminal (nonnegative : 0 ≤ pid) {r : Procfs.StatRow} (printed : Prints answer p pid r) :
    (p.terminal pid).result answer = .ok (if r.record.terminal = 0 then none
      else (listedIn answer p.devices).find? (isDevice answer r.record.terminal)) := by
  rw [terminal, Query.result_bind_of_ok answer (result_processStat nonnegative printed), Query.result_ofProgram,
    terminalName]
  split
  · rfl
  · rw [Posix.deviceIn_eval, devices]

/-- Nothing is read from a line that is no text. -/
theorem terminal_of_undecoded (nonnegative : 0 ≤ pid) {bytes : Bytes}
    (read : answer (.file (.read (p.procfs.pidPath pid "stat"))) = .ok bytes) (undecoded : Utf8.decode? bytes = none) :
    ∃ error, (p.terminal pid).result answer = .error (.report error) := by
  have failed : (Ask.readText (p.procfs.pidPath pid "stat")).eval answer =
      .error (.custom .invalidData "stream did not contain valid UTF-8") := by
    rw [Ask.readText, Program.eval_bind, Ask.eval_file, read]
    dsimp only
    rw [undecoded]
    rfl
  obtain ⟨error, text⟩ := result_processText_of_error nonnegative failed
  refine ⟨error, ?_⟩
  rw [terminal, processStat, processRecord, Query.result_bind, Query.result_bind, text]
  rfl

/-- The terminal is sought by its number, whose sign is extended from 32 bits to 64. -/
theorem terminal_of_prints (nonnegative : 0 ≤ pid) {major minor : Nat} (majors : major < 2 ^ 12)
    (minors : minor < 2 ^ 20) (nonzero : major ≠ 0 ∨ minor ≠ 0) {r : Procfs.StatRow} (printed : Prints answer p pid r)
    (shown : r.terminal.toInt = Word.toInt 32 (Device.narrow major minor)) :
    (p.terminal pid).result answer = .ok ((listedIn answer p.devices).find? (isDevice answer
      (if minor < 2 ^ 19 then Device.wide major minor else Device.wide major minor + (2 ^ 64 - 2 ^ 32)))) := by
  have sum : Device.narrow major minor = minor / 256 * 1048576 + major * 256 + minor % 256 := Device.narrow_eq majors
  have number : r.record.terminal = Word.ofInt 64 (Word.toInt 32 (Device.narrow major minor)) :=
    congrArg (Word.ofInt 64) shown
  have ran := result_terminal nonnegative printed
  rw [Word.ofInt_toInt_32 (by omega), ← Device.wide_eq_narrow majors] at number
  rw [← Device.wide_eq_narrow majors] at sum
  by_cases low : minor < 2 ^ 19
  · rw [if_pos (by omega)] at number
    rw [number, if_neg (by omega)] at ran
    rw [if_pos low]
    exact ran
  · rw [if_neg (by omega)] at number
    rw [number, if_neg (by omega)] at ran
    rw [if_neg low]
    exact ran

/-- The terminal of a process whose line is a text with the number of a device, printed in 32 bits and with a sign, is
found among the devices when its minor number has at most 19 bits; a larger one is never found. Where the line is no
text, there is an error. -/
theorem terminal_found (nonnegative : 0 ≤ pid) :
    (∀ (major minor : Nat) (r : Procfs.StatRow), major < 2 ^ 12 → minor < 2 ^ 20 → major ≠ 0 ∨ minor ≠ 0 →
      Prints answer p pid r → r.terminal.toInt = Word.toInt 32 (Device.narrow major minor) →
      (minor < 2 ^ 19 → ∃ found, (p.terminal pid).result answer = .ok found ∧
        (∀ path ∈ found, Stands answer p.devices (Device.wide major minor) path) ∧
        (found = none ↔ ∀ path, ¬Stands answer p.devices (Device.wide major minor) path)) ∧
      (2 ^ 19 ≤ minor → (∀ number path, Stands answer p.devices number path → number < 2 ^ 32) →
        (p.terminal pid).result answer = .ok none)) ∧
    ∀ bytes, answer (.file (.read (p.procfs.pidPath pid "stat"))) = .ok bytes → Utf8.decode? bytes = none →
      ∃ error, (p.terminal pid).result answer = .error (.report error) := by
  refine ⟨?_, fun bytes read undecoded => terminal_of_undecoded nonnegative read undecoded⟩
  intro major minor r majors minors nonzero printed shown
  have ran := terminal_of_prints nonnegative majors minors nonzero printed shown
  constructor
  · intro low
    rw [if_pos low] at ran
    exact ⟨_, ran, Posix.stands_of_find? answer rfl⟩
  · intro high narrow
    rw [if_neg (Nat.not_lt.mpr high)] at ran
    rw [ran, (Posix.stands_of_find? answer rfl).2.mpr]
    intro path stands
    have small := narrow _ path stands
    omega

private def lineOf (terminal : Int64) : Procfs.StatRow :=
  let zero : Procfs.UnreadColumn := ⟨['0'], by decide⟩
  { pid := 42, name := "sh".toList, state := ⟨'S', by decide⟩, ppid := 1, group := zero, session := zero, terminal,
    foreground := zero, flags := zero, minorFaults := 0, childrenMinorFaults := zero, majorFaults := 0,
    childrenMajorFaults := zero, userTicks := 0, systemTicks := 0, childrenUserTicks := 0, childrenSystemTicks := 0,
    priority := zero, nice := 0, threads := 1, timer := zero, startTicks := 0, virtualSize := 0, residentPages := 0,
    others := [], gaps := fun _ => 0, ending := ⟨['\n'], by decide⟩ }

private def withTerminal (stat : Bytes) (name : String) (rdev : Nat) : (c : Call) → c.Answer
  | .file (.read _) => .ok stat
  | .file (.list path) => .ok (if path = "/dev/pts" then [name] else [])
  | .file (.linkInfo _) => .ok { kind := .characterDevice, rdev }
  | c => ({} : Host).reply c

private theorem stands_withTerminal (stat : Bytes) (name : String) (rdev : Nat) {number : Nat} {path : String} :
    Stands (withTerminal stat name rdev) ({} : Probe).devices number path ↔
      path = Path.join "/dev/pts" name ∧ rdev = number := by
  rw [Posix.stands_iff]
  have listed : listedIn (withTerminal stat name rdev) ({} : Probe).devices = [Path.join "/dev/pts" name] := rfl
  rw [listed, List.mem_singleton]
  refine and_congr_right fun _ => ?_
  simp [isDevice, withTerminal]

/-- The pseudo terminal 5 has the major number 136. -/
theorem terminal_found_pseudoTerminal :
    (({} : Probe).terminal 42).result (withTerminal (Utf8.encode (lineOf 34821).text) "5" 34821) =
      .ok (some "/dev/pts/5") := by
  have shown : (lineOf 34821).terminal.toInt = Word.toInt 32 (Device.narrow 136 5) := by decide
  have printed : Prints (withTerminal (Utf8.encode (lineOf 34821).text) "5" 34821) {} 42 (lineOf 34821) := rfl
  have stands : Stands (withTerminal (Utf8.encode (lineOf 34821).text) "5" 34821) ({} : Probe).devices
      (Device.wide 136 5) "/dev/pts/5" := (stands_withTerminal _ _ _).mpr ⟨by decide, by decide⟩
  obtain ⟨found, ran, right, none⟩ := ((terminal_found (by decide : (0 : Pid) ≤ 42)).1 136 5 _ (by decide) (by decide)
    (.inl (by decide)) printed shown).1 (by decide)
  cases found with
  | none => exact absurd stands (none.mp rfl _)
  | some path =>
    obtain ⟨rfl, -⟩ := (stands_withTerminal _ _ _).mp (right path rfl)
    exact ran

/-- With more than half a million pseudo terminals, the last of them are not found; and no terminal is found for a
process whose name was cut inside a character. -/
theorem terminal_overlooked :
    (∃ (answer : (c : Call) → c.Answer) (r : Procfs.StatRow),
      Prints answer {} 42 r ∧ r.terminal.toInt = Word.toInt 32 (Device.narrow 136 600000) ∧
      Stands answer ({} : Probe).devices (Device.wide 136 600000) "/dev/pts/600000" ∧
      (({} : Probe).terminal 42).result answer = .ok none) ∧
    ∃ (answer : (c : Call) → c.Answer) (r : Procfs.StatRow) (error : Error),
      answer (.file (.read "/proc/42/stat")) = .ok (Utf8.encode "42 (".toList ++ 0xc3 :: Utf8.encode (')' :: r.back)) ∧
      r.terminal.toInt = Word.toInt 32 (Device.narrow 136 5) ∧
      Stands answer ({} : Probe).devices (Device.wide 136 5) "/dev/pts/5" ∧
      (({} : Probe).terminal 42).result answer = .error (.report error) := by
  constructor
  · have printed : Prints (withTerminal (Utf8.encode (lineOf (-1838118720)).text) "600000" 2456848576) {} 42
        (lineOf (-1838118720)) := rfl
    refine ⟨_, _, printed, by decide, (stands_withTerminal _ _ _).mpr ⟨by decide, by decide⟩, ?_⟩
    have number : (lineOf (-1838118720)).record.terminal = 18446744071871432896 := by decide
    rw [result_terminal (by decide) printed, number, if_neg (by decide)]
    refine congrArg Except.ok ((Posix.stands_of_find? _ rfl).2.mpr fun path stands => ?_)
    exact absurd ((stands_withTerminal _ _ _).mp stands).2 (by decide)
  · let stat := Utf8.encode "42 (".toList ++ 0xc3 :: Utf8.encode (')' :: (lineOf 34821).back)
    have undecoded : Utf8.decode? stat = none := by decide
    have read : withTerminal stat "5" 34821 (.file (.read "/proc/42/stat")) = .ok stat := rfl
    obtain ⟨error, failed⟩ : ∃ error, (({} : Probe).terminal 42).result (withTerminal stat "5" 34821) =
        .error (.report error) := terminal_of_undecoded (by decide) read undecoded
    exact ⟨_, lineOf 34821, error, read, by decide, (stands_withTerminal _ _ _).mpr ⟨by decide, by decide⟩, failed⟩

end Linux.Probe
end HostProbe
