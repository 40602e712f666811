import HostProbe.Footprint
import HostProbe.Footprint.Scanner
import HostProbe.Number.Integer
import HostProbe.Procfs.Tree
import HostProbe.Word

/-! Footprints from the process file system: sums over the mappings of a process, or else its count of resident
pages. A reader of footprints chooses its file once and may be asked again and again. -/
namespace HostProbe.Footprint

structure Totals where
  rss : Nat := 0
  pss : Nat := 0
  privateClean : Nat := 0
  privateDirty : Nat := 0
  swap : Nat := 0
  sawRss : Bool := false
  deriving Repr, DecidableEq, Inhabited

def isDigit (b : UInt8) : Bool := 48 ≤ b && b ≤ 57

/-- Key of a line and what follows from the first digit behind its colon. -/
def splitField (line : Bytes) : Option (Bytes × Bytes) :=
  let rest := line.dropWhile (· != 58)
  let value := rest.dropWhile fun b => !isDigit b
  if value.isEmpty then none else some (line.takeWhile (· != 58), value)

def isAsciiBlank (b : UInt8) : Bool := b == 32 || b == 9 || b == 10 || b == 12 || b == 13

def kilobytes? (value : Bytes) : Option Nat :=
  (Utf8.decode? (value.takeWhile fun b => !isAsciiBlank b)).bind Integer.word?

namespace Totals

/-- Takes one line; the key of the resident size counts as seen even where its amount cannot be read. -/
def observe (t : Totals) (line : Bytes) : Outcome Totals :=
  match splitField line with
  | none => .ok t
  | some (key, value) =>
    let key := Utf8.toString key
    let t := if key = "Rss" then { t with sawRss := true } else t
    let plus (old : Nat) : Outcome Nat :=
      match kilobytes? value with
      | none => .ok old
      | some n => do Word.add old (← Word.mul n 1024)
    match key with
    | "Rss" => do return { t with rss := ← plus t.rss }
    | "Pss" => do return { t with pss := ← plus t.pss }
    | "Private_Clean" => do return { t with privateClean := ← plus t.privateClean }
    | "Private_Dirty" => do return { t with privateDirty := ← plus t.privateDirty }
    | "Swap" => do return { t with swap := ← plus t.swap }
    | _ => .ok t

/-- The footprint of the sums; a file without resident sizes belongs to a kernel thread or an exiting process. -/
def footprint (t : Totals) : FootprintOutcome Footprint :=
  if !t.sawRss then .error (.report (.custom .invalidData "no Rss entries in smaps"))
  else
    match Word.add t.privateClean t.privateDirty with
    | .ok uss => .ok { rss := t.rss, pss := t.pss, uss := some uss, swap := t.swap }
    | .error _ => .error .abort

end Totals

variable {m : Type → Type} [Monad m]

/-- Sums the lines that are left, with a bound on their number that no file reaches. -/
def sumLines (read : (offset count : Nat) → m (Except IoError Bytes)) :
    Nat → Totals → Scanner → m (FootprintOutcome Totals × Scanner)
  | 0, totals, scanner => pure (.ok totals, scanner)
  | fuel + 1, totals, scanner => do
    match ← scanner.nextLine read with
    | (.error cause, scanner) => return (.error (.report cause), scanner)
    | (.ok none, scanner) => return (.ok totals, scanner)
    | (.ok (some line), scanner) =>
      match totals.observe line with
      | .ok totals => sumLines read fuel totals scanner
      | .error _ => return (.error .abort, scanner)

def lineLimit : Nat := 1 <<< 62

inductive Source
  | rollup (scanner : Scanner)
  | mappings (scanner : Scanner)
  | pageCounts
  deriving Repr, DecidableEq, Inhabited

structure Querier where
  base : String
  source : Source
  pageSize : Nat
  deriving Repr, DecidableEq, Inhabited

namespace Querier

def rollupPath (q : Querier) : String := Path.join q.base "smaps_rollup"
def mappingsPath (q : Querier) : String := Path.join q.base "smaps"
def pageCountsPath (q : Querier) : String := Path.join q.base "statm"

/-- Chooses the file to read: the sums that the kernel made, the mappings, or the page counts. -/
def new (fs : Procfs) (target : Target) : Program Querier := do
  let base :=
    match target with
    | .current => fs.path "self"
    | .pid pid => fs.pidDir pid
  let source ←
    if ← Ask.fileExists (Path.join base "smaps_rollup") then pure (Source.rollup {})
    else if ← Ask.fileExists (Path.join base "smaps") then pure (Source.mappings {})
    else pure Source.pageCounts
  let pageSize ← Ask.posix (.setting .pageSize)
  return { base, source, pageSize := pageSize.toNat }

/-- Sums the lines of a file from its beginning; a file that cannot be opened leaves the scanner as it was. -/
def scan (path : String) (scanner : Scanner) : Program (FootprintOutcome Footprint × Scanner) := do
  match ← Ask.file (.openFile path) with
  | .error cause => return (.error (.report cause), scanner)
  | .ok () =>
    let read (offset count : Nat) : Program (Except IoError Bytes) := Ask.file (.readAt path offset count)
    let (totals, scanner) ← sumLines read lineLimit {} scanner.reset
    return (totals.bind Totals.footprint, scanner)

/-- Bytes read of the page counts, more than their longest line has. -/
def pageCountsBuffer : Nat := 256

def residentOfPageCounts (pageSize : Nat) (bytes : Bytes) : FootprintOutcome Footprint :=
  let invalid (text : String) : FootprintOutcome Footprint := .error (.report (.custom .invalidData text))
  if bytes.isEmpty || bytes.length = pageCountsBuffer then invalid "unexpected statm length"
  else
    match ((bytes.splitOn 32)[1]?.bind Utf8.decode?).bind fun field => Integer.word? (Text.trim field) with
    | none => invalid "malformed statm"
    | some pages =>
      match Word.mul pages pageSize with
      | .ok rss => .ok { rss }
      | .error _ => .error .abort

def readPageCounts (q : Querier) : Program (FootprintOutcome Footprint) := do
  match ← Ask.file (.openFile q.pageCountsPath) with
  | .error cause => return .error (.report cause)
  | .ok () =>
    match ← Ask.file (.readAt q.pageCountsPath 0 pageCountsBuffer) with
    | .error cause => return .error (.report cause)
    | .ok bytes => return residentOfPageCounts q.pageSize bytes

def footprint (q : Querier) : Program (FootprintOutcome Footprint × Querier) := do
  match q.source with
  | .rollup scanner =>
    let (outcome, scanner) ← scan q.rollupPath scanner
    return (outcome, { q with source := .rollup scanner })
  | .mappings scanner =>
    let (outcome, scanner) ← scan q.mappingsPath scanner
    return (outcome, { q with source := .mappings scanner })
  | .pageCounts => return (← q.readPageCounts, q)

end Querier
end HostProbe.Footprint
