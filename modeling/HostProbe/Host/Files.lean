import HostProbe.Call.Files
import HostProbe.Path

/-! A tree of files held as data: how paths lead through directories and links, and what the questions about files
get for answers. -/
namespace HostProbe

inductive FileNode
  | file (contents : Bytes) (executable : Bool)
  | directory
  | link (target : Bytes)
  | device (number : Nat)
  deriving Repr, DecidableEq, Inhabited

abbrev Location := List String

/-- Every file but the root, with its location, in the order they were made. -/
structure FileTree where
  nodes : List (Location × FileNode) := []
  /-- Where relative paths begin. -/
  working : Location := []
  /-- Numbers with which opening, listing or reading the link at a path fails. -/
  denied : List (String × ErrorNumber) := []
  /-- Paths that stand for others. -/
  redirected : List (String × String) := []
  deriving Inhabited

namespace FileTree

def linkLimit : Nat := 40

def nameLimit : Nat := 255
def pathLimit : Nat := 4095

def node? (tree : FileTree) (location : Location) : Option FileNode :=
  if location.isEmpty then some .directory
  else (tree.nodes.find? fun n => n.1 == location).map (·.2)

/-- Follows components from a directory; a link at the end is followed only where wanted. -/
def walk (tree : FileTree) (follow : Bool) (links : Nat) (here : Location) (rest : List String) :
    Except ErrorNumber (Location × FileNode) :=
  match rest with
  | [] => .ok (here, .directory)
  | "" :: rest | "." :: rest => walk tree follow links here rest
  | ".." :: rest => walk tree follow links here.dropLast rest
  | name :: rest =>
    if Text.byteLength name.toList > nameLimit then .error ErrorNumber.nameTooLong
    else
      let there := here ++ [name]
      match tree.node? there with
      | none => .error ErrorNumber.noEntry
      | some .directory => walk tree follow links there rest
      | some (.link target) =>
        if rest.isEmpty && !follow then .ok (there, .link target)
        else if links = 0 then .error ErrorNumber.tooManyLevels
        else
          let target := Utf8.toString target
          if target.isEmpty then .error ErrorNumber.noEntry
          else
            walk tree follow (links - 1) (if Path.isAbsolute target then [] else here)
              (Path.components target ++ rest)
      | some found => if rest.isEmpty then .ok (there, found) else .error ErrorNumber.notDirectory
termination_by (links, rest.length)

def resolve (tree : FileTree) (follow : Bool) (path : String) : Except IoError (Location × FileNode) :=
  if path.toList.contains '\x00' then
    .error (.custom .invalidInput "file name contained an unexpected NUL byte")
  else if path.isEmpty then .error (.number ErrorNumber.noEntry)
  else if Text.byteLength path.toList > pathLimit then .error (.number ErrorNumber.nameTooLong)
  else
    match walk tree follow linkLimit (if Path.isAbsolute path then [] else tree.working) (Path.components path) with
    | .ok found => .ok found
    | .error n => .error (.number n)

def admitted (tree : FileTree) (path : String) : Except IoError String :=
  match tree.denied.find? fun d => d.1 == path with
  | some (_, number) => .error (.number number)
  | none => .ok (((tree.redirected.find? fun r => r.1 == path).map (·.2)).getD path)

def entries (tree : FileTree) (location : Location) : List String :=
  tree.nodes.filterMap fun (l, _) => if l.dropLast == location then l.getLast? else none

/-- Number that tells files apart: the place in the order of making, the root first. -/
def inode (tree : FileTree) (location : Location) : Nat :=
  if location.isEmpty then 1 else 2 + tree.nodes.findIdx fun n => n.1 == location

def infoOf (tree : FileTree) (location : Location) (node : FileNode) : FileInfo :=
  let inode := tree.inode location
  match node with
  | .file _ executable => { kind := .regular, inode, executable }
  | .directory => { kind := .directory, inode, executable := true }
  | .link _ => { kind := .link, inode, executable := true }
  | .device rdev => { kind := .characterDevice, rdev, inode }

def contents : FileNode → Except IoError Bytes
  | .file bytes _ => .ok bytes
  | .directory => .error (.number ErrorNumber.isDirectory)
  | _ => .ok []

def answer (tree : FileTree) : (c : FileCall) → c.Answer
  | .read path => do
    let (_, node) ← tree.resolve true (← tree.admitted path)
    contents node
  | .list path => do
    match ← tree.resolve true (← tree.admitted path) with
    | (location, .directory) => return tree.entries location
    | _ => .error (.number ErrorNumber.notDirectory)
  | .readLink path => do
    match ← tree.resolve false (← tree.admitted path) with
    | (_, .link target) => return target
    | _ => .error (.number ErrorNumber.invalidArgument)
  | .info path => do
    let (location, node) ← tree.resolve true path
    return tree.infoOf location node
  | .linkInfo path => do
    let (location, node) ← tree.resolve false path
    return tree.infoOf location node
  | .openFile path => do
    let _ ← tree.resolve true (← tree.admitted path)
    return ()
  | .readAt path offset count => do
    let (_, node) ← tree.resolve true (((tree.redirected.find? fun r => r.1 == path).map (·.2)).getD path)
    let bytes ← contents node
    if offset ≥ 1 <<< 63 then .error (.number ErrorNumber.invalidArgument)
    else return (bytes.drop offset).take count

def erase (tree : FileTree) (location : Location) : FileTree :=
  { tree with nodes := tree.nodes.filter fun n => !location.isPrefixOf n.1 }

def withParents (tree : FileTree) (location : Location) : FileTree :=
  (List.range location.length).foldl (fun tree n =>
    let l := location.take n
    if (tree.node? l).isSome then tree else { tree with nodes := tree.nodes ++ [(l, .directory)] }) tree

def put (tree : FileTree) (location : Location) (node : FileNode) : FileTree :=
  let tree := (tree.erase location).withParents location
  { tree with nodes := tree.nodes ++ [(location, node)] }

def locate (tree : FileTree) (path : String) : Location :=
  let parts := (Path.components path).filter fun c => c != "" && c != "."
  if Path.isAbsolute path then parts else tree.working ++ parts

end FileTree
end HostProbe
