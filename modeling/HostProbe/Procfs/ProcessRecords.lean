import HostProbe.Procfs.Fields
import HostProbe.Record.System
import HostProbe.Record.Process
import HostProbe.Text.Utf8

/-! The records of one process: its `stat` line, its `status` pairs, its `statm` page counts, its `io` counts and
its `smaps` mappings. -/
namespace HostProbe.Procfs

structure ProcessStat where
  name : String
  state : Char
  ppid : Pid
  terminal : Nat
  minorFaults : Nat
  majorFaults : Nat
  userTicks : Nat
  systemTicks : Nat
  childrenUserTicks : Int
  childrenSystemTicks : Int
  nice : Int
  threads : Nat
  startTicks : Nat
  virtualSize : Nat
  residentPages : Nat
  deriving Repr, DecidableEq

namespace ProcessStat

def failure {α : Type} (detail : String) : Outcome α := Outcome.report (.parse "/proc/<pid>/stat" detail)

def column {α : Type} (read : Text → Option α) (fields : List Text) (i : Nat) : Outcome α :=
  let field := fields.getD i []
  match read field with
  | some value => .ok value
  | none => failure (s!"bad field {i + 3}: " ++ Text.quoted field)

def ofFields (name : Text) (fields : List Text) : Outcome ProcessStat :=
  if fields.length < 22 then failure "too few fields"
  else do
    let ppid ← column Integer.int32? fields 1
    let terminal ← column Integer.int64? fields 4
    let minorFaults ← column Integer.word? fields 7
    let majorFaults ← column Integer.word? fields 9
    let userTicks ← column Integer.word? fields 11
    let systemTicks ← column Integer.word? fields 12
    let childrenUserTicks ← column Integer.int64? fields 13
    let childrenSystemTicks ← column Integer.int64? fields 14
    let nice ← column Integer.int64? fields 16
    let threads ← column Integer.word? fields 17
    let startTicks ← column Integer.word? fields 19
    let virtualSize ← column Integer.word? fields 20
    let residentPages ← column Integer.int64? fields 21
    return {
      name := String.ofList name, state := ((fields.getD 0 []).head?).getD '?', ppid,
      terminal := Word.ofInt 64 terminal, minorFaults, majorFaults, userTicks, systemTicks, childrenUserTicks,
      childrenSystemTicks, nice, threads, startTicks, virtualSize, residentPages := residentPages.toNat }

def parse (text : Text) : Outcome ProcessStat :=
  match text.splitOnce '(' with
  | none => failure "missing '('"
  | some (_, rest) =>
    match Text.splitOnce ')' rest.reverse with
    | some (fields, name) => ofFields name.reverse (Text.words fields.reverse)
    | none => failure (if text.contains ')' then "mismatched parentheses" else "missing ')'")

end ProcessStat

/-- Pairs of a process's `status` file, with blanks around keys and values cut. -/
def parseStatus (text : Text) : List (Text × Text) :=
  text.lines.filterMap fun line => (line.splitOnce ':').map fun (k, v) => (k.trim, v.trim)

def statusIds (status : List (Text × Text)) (key : String) : Outcome ProcessIds :=
  match ((lastOf? status key).getD []).words.filterMap Integer.word32? with
  | real :: effective :: saved :: _ => .ok { real, effective, saved }
  | _ => Outcome.report (.parse "/proc/<pid>/status" s!"missing or short {key} line")

def statusContextSwitches (status : List (Text × Text)) : Outcome ContextSwitches :=
  let get (key : String) := (lastOf? status key).bind Integer.word?
  match get "voluntary_ctxt_switches", get "nonvoluntary_ctxt_switches" with
  | some voluntary, some involuntary => .ok { voluntary, involuntary }
  | _, _ => Outcome.report (.unsupported "context switch counters")

def statusAmount (status : List (Text × Text)) (key : String) : Outcome (Option Nat) :=
  match (lastOf? status key).bind fun value => (Text.words value).head?.bind Integer.word? with
  | none => .ok none
  | some n => do return some (← Word.mul n 1024)

structure Statm where
  size : Nat
  resident : Nat
  shared : Nat
  text : Nat
  data : Nat
  deriving Repr, DecidableEq, Inhabited

/-- Reads the page counts; the fifth is of a kind that no kernel keeps any more. -/
def Statm.parse (text : Text) : Outcome Statm := do
  let fail {α : Type} (detail : String) : Outcome α := Outcome.report (.parse "/proc/<pid>/statm" detail)
  let values ← text.words.mapM fun v =>
    match Integer.word v with
    | .ok n => (.ok n : Outcome Nat)
    | .error fault => fail fault.message
  match values with
  | size :: resident :: shared :: text :: _ :: data :: _ => return { size, resident, shared, text, data }
  | _ => fail "expected 7 fields"

def parseIo (text : Text) : Outcome IoCounters := do
  let fields ← keyedAmounts text
  let get (key : String) : Outcome Nat :=
    Outcome.ofOption (.parse "/proc/<pid>/io" s!"missing {key}") (lastOf? fields key)
  let readCount ← get "syscr"
  let writeCount ← get "syscw"
  let readBytes ← get "read_bytes"
  let writeBytes ← get "write_bytes"
  return { readCount, writeCount, readBytes, writeBytes }

/-- Mapping of a header line: address range, permissions, three columns, and the path if there is one. -/
def mappingOfHeader (line first : Text) : MemoryMap :=
  let path := skipFields line 5
  { address := String.ofList first, perms := String.ofList (line.words.getD 1 []),
    path := if path.isEmpty then "[anon]" else String.ofList path }

/-- Sets the amount that a key names; other keys change nothing. -/
def setMappingAmount (m : MemoryMap) (key : String) (bytes : Nat) : MemoryMap :=
  match key with
  | "Size" => { m with size := bytes }
  | "Rss" => { m with rss := bytes }
  | "Pss" => { m with pss := bytes }
  | "Shared_Clean" => { m with sharedClean := bytes }
  | "Shared_Dirty" => { m with sharedDirty := bytes }
  | "Private_Clean" => { m with privateClean := bytes }
  | "Private_Dirty" => { m with privateDirty := bytes }
  | "Referenced" => { m with referenced := bytes }
  | "Anonymous" => { m with anonymous := bytes }
  | "Swap" => { m with swap := bytes }
  | _ => m

def readSmapsLine (maps : List MemoryMap) (line : Text) : Outcome (List MemoryMap) :=
  match line.words with
  | [] => .ok maps
  | first :: _ =>
    if first.getLast? ≠ some ':' then .ok (mappingOfHeader line first :: maps)
    else
      match maps with
      | [] => Outcome.report (.parse "/proc/<pid>/smaps" "field before first mapping")
      | current :: older => do
        match ← keyedAmount line with
        | none => return maps
        | some (key, bytes) => return setMappingAmount current (String.ofList key) bytes :: older

def parseSmaps (text : Text) : Outcome (List MemoryMap) := do
  return (← text.lines.foldlM readSmapsLine []).reverse

end HostProbe.Procfs
