import HostProbe.CommandLine
import HostProbe.Host

/-! The program on a running system. Questions about files go to the system; what the runtime offers no way to ask is
answered as by a host that keeps no record of it. -/
namespace HostProbe.Live

def ioError : IO.Error → IoError
  | .noFileOrDirectory .. | .noSuchThing .. => .number ErrorNumber.noEntry
  | .permissionDenied .. => .number ErrorNumber.accessDenied
  | .inappropriateType .. => .number ErrorNumber.isDirectory
  | .invalidArgument .. => .number ErrorNumber.invalidArgument
  | e => .custom .other (toString e)

def attempt {α : Type} (action : IO α) : IO (Except IoError α) := do
  match ← action.toBaseIO with
  | .ok a => return .ok a
  | .error e => return .error (ioError e)

def readFile (path : String) : IO Bytes := do return (← IO.FS.readBinFile path).toList

def fileInfo (path : String) : IO FileInfo := do
  let kind : FileKind := match (← (← IO.FS.realPath path).metadata).type with
    | .dir => .directory
    | .file => .regular
    | .symlink => .link
    | .other => .other
  return { kind }

def answerFile : (c : FileCall) → IO c.Answer
  | .read path => attempt (readFile path)
  | .list path => attempt do return (← (← IO.FS.realPath path).readDir).toList.map (·.fileName)
  | .readLink _ => return .error (.number ErrorNumber.notImplemented)
  | .info path | .linkInfo path => attempt (fileInfo path)
  | .openFile path => attempt do
    let _ ← IO.FS.Handle.mk path .read
  | .readAt path offset count => attempt do return ((← readFile path).drop offset).take count

def answer (c : Call) : IO c.Answer :=
  match c with
  | .file c => answerFile c
  | c => return ((Host.answer c).run {}).1

def environment : IO (List (String × String)) := do
  match ← attempt (readFile "/proc/self/environ") with
  | .error _ => return []
  | .ok bytes =>
    let entries := (Utf8.decodeLossy bytes).splitOn '\x00'
    return entries.filterMap fun entry =>
      (Text.splitOnce '=' entry).map fun (name, value) => (String.ofList name, String.ofList value)

def self : IO Pid := do
  match ← attempt (readFile "/proc/self/stat") with
  | .error _ => return 0
  | .ok bytes => return (readPid? ((Utf8.decodeLossy bytes).takeWhile Char.isDigit)).getD 0

end HostProbe.Live

open HostProbe

def main (words : List String) : IO UInt32 := do
  let ending ← (CommandLine.run words (← Live.environment) (← Live.self)).runWith Live.answer
  (← IO.getStdout).putStr ending.output
  (← IO.getStderr).putStr ending.complaint
  return UInt32.ofNat ending.exitCode
