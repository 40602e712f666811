import HostProbe.Program
import HostProbe.Settings
import HostProbe.Yaml.Document

/-! Settings in files. -/
namespace HostProbe.Settings

inductive Format
  | yaml
  | json
  deriving Repr, DecidableEq, Inhabited

namespace Format

def title : Format → String
  | yaml => "YAML file"
  | json => "JSON file"

def read : Format → Text → Except String Tree
  | yaml, t => Yaml.readObject t
  | json, t =>
    match Json.read? t with
    | some (.object members) => .ok (.object members)
    | some _ => .error "expected a map"
    | none => .error "expected a document"

end Format

def readFile (format : Format) (path : String) : Program (Except Fault Tree) := do
  let contents ← (Program.call (.file (.read path)) : Program (Except IoError Bytes))
  let tree : Except String Tree := match contents with
    | .error e => .error e.message
    | .ok bytes =>
      match Utf8.decode? bytes with
      | some t => format.read t
      | none => .error "stream did not contain valid UTF-8"
  return tree.mapError fun cause => .failed cause ""

def withFile (s : Settings) (format : Format) (path : String) : Program (Except Fault Settings) := do
  return (← readFile format path).map (s.withLayer (path ++ " " ++ format.title))

def withFileIfAny (s : Settings) (format : Format) (path : String) : Program Settings := do
  return (← s.withFile format path).toOption.getD s

end HostProbe.Settings
