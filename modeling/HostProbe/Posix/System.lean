import HostProbe.Bounded
import HostProbe.Bytes
import HostProbe.Number.Real
import HostProbe.Path
import HostProbe.Program
import HostProbe.Record.System
import HostProbe.Record.Session
import HostProbe.Word

/-! What systems of this family tell in one way: their settings, terminals by the numbers of their devices, space on
file systems, and who is logged in by their login records. -/
namespace HostProbe.Posix

/-! ### Settings -/

def positiveSetting (name : Setting) (default : Nat) : Program Nat := do
  let value ← Ask.posix (.setting name)
  return if value > 0 then value.toNat else default

/-! ### Terminals -/

def deviceAmong (number : Nat) (dir : String) : List String → Program (Option String)
  | [] => return none
  | name :: names => do
    let path := Path.join dir name
    match ← Ask.file (.linkInfo path) with
    | .ok info =>
      if info.kind = .characterDevice && info.rdev = number then return some path
      deviceAmong number dir names
    | .error _ => deviceAmong number dir names

def deviceIn (number : Nat) : List String → Program (Option String)
  | [] => return none
  | dir :: dirs => do
    let names ← Ask.file (.list dir)
    match ← deviceAmong number dir (names.toOption.getD []) with
    | some path => return some path
    | none => deviceIn number dirs

def terminalName (number : Nat) : Program (Option String) := deviceIn number ["/dev/pts", "/dev/term", "/dev"]

/-! ### Space on file systems -/

/-- Space in bytes. Blocks kept for the system's own use count as used, never as free. -/
def usageOfBlocks (v : VolumeBlocks) : Outcome DiskUsage := do
  let used ← Word.mul (v.blocks - v.free) v.fragmentSize
  let free ← Word.mul v.available v.fragmentSize
  return { total := ← Word.add used free, used, free }

def checkPath (path : String) : Outcome Unit :=
  if path.toList.contains '\x00' then
    Outcome.report (.os "path conversion" (.custom .invalidInput "path contains a NUL byte"))
  else .ok ()

/-- Space on the file system of a path. The call runs on a worker, since an unresponsive network mount blocks it. -/
def diskUsage (path : String) : Query DiskUsage :=
  onWorker "statvfs" do
    Query.lift (checkPath path)
    match ← (Ask.posix (.volume path) : Program (Except IoError VolumeBlocks)) with
    | .ok v => Query.lift (usageOfBlocks v)
    | .error cause => Query.report (.os s!"statvfs({path})" cause)

/-! ### Logins -/

structure LoginLayout where
  sessionType : Int
  userSize : Nat
  lineSize : Nat
  hostSize : Nat
  deriving Repr, DecidableEq

namespace LoginLayout

def linux : LoginLayout := ⟨7, 32, 32, 256⟩

end LoginLayout

def nonEmpty (s : String) : Option String := if s.isEmpty then none else some s

def userOfLogin (layout : LoginLayout) (entry : LoginEntry) : Option User :=
  if entry.type ≠ layout.sessionType then none
  else some {
    name := Bytes.cString (entry.user.take layout.userSize)
    terminal := nonEmpty (Bytes.cString (entry.line.take layout.lineSize))
    host := nonEmpty (Bytes.cString (entry.host.take layout.hostSize))
    started := Real.ofInt entry.seconds + Real.ofInt entry.microseconds / 1000000.0
    pid := entry.pid }

def users (layout : LoginLayout) : Query (List User) := do
  return (← (Ask.posix .logins : Program (List LoginEntry))).filterMap (userOfLogin layout)

end HostProbe.Posix
