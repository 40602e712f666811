import HostProbe.Settings.Reader
import HostProbe.Settings.Variable

/-! Settings from several sources, of which the later ones win. -/
namespace HostProbe

namespace Settings

structure Layer where
  origin : String
  tree : Tree
  deriving Inhabited

end Settings

structure Settings where
  layers : List Settings.Layer := []
  /-- What the variables begin with that were looked at. -/
  starts : List String := []
  deriving Inhabited

namespace Settings

def empty : Settings := {}

def withLayer (s : Settings) (origin : String) (tree : Tree) : Settings :=
  { s with layers := s.layers ++ [⟨origin, tree⟩] }

def withDefaults (s : Settings) (tree : Tree) : Settings := { s with layers := ⟨"defaults", tree⟩ :: s.layers }

/-- The settings of a program in its variables, over the earlier ones; diagnostics name them by their origin. -/
def withVariables (s : Settings) (program : String) (entries : List (String × String))
    (origin : String := "environment variables") : Except Fault Settings :=
  if program.isEmpty then .error .unnamedProgram
  else
    let start := variableStart program
    let s := s.withLayer origin (ofVariables start entries)
    .ok { s with starts := if s.starts.contains start then s.starts else s.starts ++ [start] }

def merged (s : Settings) : Tree := s.layers.foldl (fun tree layer => tree.overlay layer.tree) (.object [])

def originOf? (s : Settings) (path : List String) : Option String :=
  (s.layers.reverse.find? fun layer => (layer.tree.at? path).isSome).map (·.origin)

def place (s : Settings) (path : List String) : String :=
  let key := if path.isEmpty then "" else " for key " ++ Text.quoted ("default." ++ String.intercalate "." path).toList
  key ++ ((s.originOf? path).map fun origin => " in " ++ origin).getD ""

def readAt {α : Type} (s : Settings) (read : Reader α) (path : List String) (tree : Tree) : Except Fault α :=
  (read tree).mapError fun misfit => Fault.ofMisfit misfit path s.place

/-- Reads a setting: under its key, or else under the key with underscores for periods. -/
def get {α : Type} (s : Settings) (read : Reader α) (key : String) : Except Fault α :=
  let path (key : String) : List String := (names key).filter fun name => !name.isEmpty
  match s.merged.at? (names key), s.merged.at? (names (flatten key)) with
  | some tree, _ => s.readAt read (path key) tree
  | none, some tree => s.readAt read (path (flatten key)) tree
  | none, none =>
    .error (.missing (flatten key) (flatten key :: s.starts.map fun start => variableName start (flatten key)))

def get? {α : Type} (s : Settings) (read : Reader α) (key : String) : Except Fault (Option α) :=
  match s.get read key with
  | .ok a => .ok (some a)
  | .error (.missing ..) => .ok none
  | .error e => .error e

def getD {α : Type} (s : Settings) (read : Reader α) (key : String) (default : α) : α :=
  match s.get read key with
  | .ok a => a
  | .error _ => default

def all {α : Type} (s : Settings) (read : Reader α) : Except Fault α := s.readAt read [] s.merged

def member {α : Type} (s : Settings) (read : Reader α) (name : String) (default : α) : Except Fault α :=
  match s.merged.get? name with
  | some tree => s.readAt read [name] tree
  | none => .ok default

end Settings
end HostProbe
