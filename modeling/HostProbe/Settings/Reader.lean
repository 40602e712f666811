import HostProbe.Error.Chain
import HostProbe.Json.Reader
import HostProbe.Number.Shortest
import HostProbe.Text.Quoted

/-! Settings read as values of a type, and the ways in which they are refused. Nothing is converted, except where a
reader says so. -/
namespace HostProbe.Settings

/-! ### Refusals -/

inductive Mismatch
  | type (actual expected : String)
  | value (actual expected : String)
  | message (text : String)
  deriving Repr, DecidableEq, Inhabited

def Mismatch.text : Mismatch → String
  | type actual expected => s!"invalid type: found {actual}, expected {expected}"
  | value actual expected => s!"invalid value {actual}, expected {expected}"
  | message text => text

structure Misfit where
  mismatch : Mismatch
  path : List String := []
  deriving Repr, DecidableEq, Inhabited

inductive Fault
  | unnamedProgram
  /-- A setting that is not there, and the names under which it may be given. -/
  | missing (name : String) (spellings : List String)
  | mistyped (name expected actual : String)
  /-- Anything else, with its cause and the place that it comes from. -/
  | failed (cause place : String)
  deriving Repr, DecidableEq, Inhabited

namespace Fault

def message : Fault → String
  | unnamedProgram => "Environment variable prefix must not be empty."
  | missing name spellings =>
    s!"Missing field '{name}' in configuration. Try setting `" ++ String.intercalate "` or `" spellings ++ "`."
  | mistyped name expected actual => s!"Expected value for field '{name}' to be '{expected}', got '{actual}' instead."
  | failed .. => "Failed to query configuration."

def cause? : Fault → Option String
  | failed cause _ => some cause
  | _ => none

def chain (f : Fault) : ErrorChain :=
  match f with
  | failed cause place => { cause := cause ++ place, contexts := [f.message] }
  | f => { cause := f.message }

def ofMisfit (m : Misfit) (path : List String) (place : List String → String) : Fault :=
  let path := m.path ++ path
  match m.mismatch with
  | .type actual expected => mistyped (String.intercalate "." path) expected actual
  | mismatch => failed mismatch.text (place path)

end Fault

/-! ### Readers -/

abbrev Reader (α : Type) := Json → Except Misfit α

def isWide (n : Int) : Bool := n < -0x8000000000000000 || 0xffffffffffffffff < n

def describe : Json → String
  | .null => "unit"
  | .bool b => s!"bool {b}"
  | .int n =>
    if isWide n then s!"integer `{n}` as " ++ (if n < 0 then "i128" else "u128")
    else if n < 0 then s!"signed int `{n}`"
    else s!"unsigned int `{n}`"
  | .real x => "float `" ++ Real.Layout.plain.write x ++ "`"
  | .text s => "string " ++ Text.quoted s.toList
  | .list _ => "sequence"
  | .object _ => "map"

namespace Reader

def wrongType {α : Type} (j : Json) (expected : String) : Except Misfit α := .error ⟨.type (describe j) expected, []⟩

def wrongValue {α : Type} (j : Json) (expected : String) : Except Misfit α := .error ⟨.value (describe j) expected, []⟩

def bool : Reader Bool
  | .bool b => .ok b
  | j => wrongType j "a boolean"

def integer (name : String) (least greatest : Int) : Reader Int
  | .int n => if least ≤ n && n ≤ greatest then .ok n else wrongValue (.int n) name
  | j => wrongType j name

def byte : Reader Int := integer "u8" 0 0xff

def word : Reader Int := integer "u64" 0 0xffffffffffffffff

def signedWord : Reader Int := integer "i64" (-0x8000000000000000) 0x7fffffffffffffff

def size : Reader Int := integer "usize" 0 0xffffffffffffffff

def real : Reader Float
  | .real x => .ok x
  | .int n => if isWide n then wrongType (.int n) "f64" else .ok (Real.ofInt n)
  | j => wrongType j "f64"

def text : Reader String
  | .text s => .ok s
  | j => wrongType j "a string"

def list {α : Type} (item : Reader α) : Reader (List α)
  | .list items =>
    items.zipIdx.mapM fun (j, index) => (item j).mapError fun m => { m with path := m.path ++ [toString index] }
  | j => wrongType j "a sequence"

def words : List (String × Bool) :=
  [("true", true), ("yes", true), ("on", true), ("1", true), ("false", false), ("no", false), ("off", false), ("0", false)]

def flag : Reader Bool
  | .bool b => .ok b
  | .int 0 => .ok false
  | .int 1 => .ok true
  | .int n =>
    if isWide n then wrongType (.int n) "a boolean, string, integer, or floating-point number"
    else wrongValue (.int n) "0 or 1"
  | .real x => if x == 0.0 then .ok false else if x == 1.0 then .ok true else wrongValue (.real x) "0.0 or 1.0"
  | .text s =>
    match words.find? fun w => w.1.toList == Text.lower (Text.trim s.toList) with
    | some (_, b) => .ok b
    | none => wrongValue (.text s) "\"true\" or \"false\" (case insensitive)"
  | j => wrongType j "a boolean, string, integer, or floating-point number"

def path : Reader (Option String)
  | .null => .ok none
  | .text s =>
    let trimmed := Text.trim s.toList
    .ok (if trimmed.isEmpty then none else some (String.ofList trimmed))
  | j => wrongType j "a filesystem path"

/-- Any value that can be written down again, so none that is too wide. -/
def value : Reader Json := fun j => do
  check j
  return j
where
  check : Json → Except Misfit Unit
    | .int n => if isWide n then .error ⟨.message "JSON number out of range", []⟩ else .ok ()
    | .list items => items.attach.forM fun ⟨j, _⟩ => check j
    | .object members => members.attach.forM fun ⟨m, _⟩ => check m.2
    | _ => .ok ()
  termination_by j => sizeOf j
  decreasing_by
    · rename_i h
      simp only [Json.list.sizeOf_spec]
      have := List.sizeOf_lt_of_mem h
      omega
    · rename_i h
      simp only [Json.object.sizeOf_spec]
      have := List.sizeOf_lt_of_mem h
      cases m
      simp_all only [Prod.mk.sizeOf_spec]
      omega

end Reader

end HostProbe.Settings
