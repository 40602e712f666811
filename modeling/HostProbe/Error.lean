import HostProbe.Error.Number

/-! The ways a query fails: the causes it reports, their wording and their coarse kinds, and the abort that no
caller can handle. -/
namespace HostProbe

/-- Process identifiers are signed, since callers may pass negative ones. -/
abbrev Pid := Int

/-- Cause of a failed system call: a number, a bare kind, or a kind with a text of its own. -/
inductive IoError
  | number (n : ErrorNumber)
  | bare (kind : IoKind)
  | custom (kind : IoKind) (text : String)
  deriving Repr, DecidableEq, Inhabited

namespace IoError

def kind : IoError → IoKind
  | number n => n.kind
  | bare k => k
  | custom k _ => k

def message : IoError → String
  | number n => s!"{n.text} (os error {n})"
  | bare k => k.description
  | custom _ text => text

/-- The system's number, which only the first form carries. -/
def number? : IoError → Option ErrorNumber
  | number n => some n
  | _ => none

end IoError

inductive Error
  | notFound (pid : Pid)
  | noSuchDevice (name : String)
  | permissionDenied (pid : Pid) (call : String)
  | zombieProcess (pid : Pid)
  | unsupported (what : String)
  | os (call : String) (cause : IoError)
  | processOs (pid : Pid) (call : String) (cause : IoError)
  | outOfMemory (requested : Nat)
  | parse (path : String) (detail : String)
  deriving Repr, DecidableEq, Inhabited

inductive ErrorKind
  | notFound
  | permissionDenied
  | zombieProcess
  | unsupported
  | transient
  | outOfMemory
  deriving Repr, DecidableEq, Inhabited

namespace Error

/-- Unreadable records count as transient, like any failed call. -/
def kind : Error → ErrorKind
  | notFound _ | noSuchDevice _ => .notFound
  | permissionDenied .. => .permissionDenied
  | zombieProcess _ => .zombieProcess
  | unsupported _ => .unsupported
  | os .. | processOs .. | parse .. => .transient
  | outOfMemory _ => .outOfMemory

def message : Error → String
  | notFound pid => s!"process {pid} not found"
  | noSuchDevice name => s!"no such device: {name}"
  | permissionDenied pid call => s!"access denied to process {pid} ({call})"
  | zombieProcess pid => s!"process {pid} is a zombie"
  | unsupported what => s!"{what} is not supported on this platform"
  | os call cause => s!"{call} failed: {cause.message}"
  | processOs pid call cause => s!"{call} failed for process {pid}: {cause.message}"
  | outOfMemory requested => s!"failed to allocate {requested} bytes for a kernel query buffer"
  | parse path detail => s!"failed to parse {path}: {detail}"

def number? : Error → Option ErrorNumber
  | os _ cause | processOs _ _ cause => cause.number?
  | _ => none

end Error

/-- Why a computation gives no answer: an error for its caller, or an abort (a count past its word, a cut inside a
character) that ends the whole query. -/
inductive Failure (ε : Type)
  | report (error : ε)
  | abort
  deriving Repr, DecidableEq, Inhabited

abbrev Fault := Failure Error

abbrev Outcome := Except Fault

namespace Outcome

def report {α : Type} (error : Error) : Outcome α := .error (.report error)

def abort {α : Type} : Outcome α := .error .abort

def ofOption {α : Type} (error : Error) : Option α → Outcome α
  | some a => .ok a
  | none => report error

end Outcome
end HostProbe
