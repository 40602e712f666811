import HostProbe.Json.Reader

/-! Trees of settings: how one is laid over another, and what a path of names leads to. -/
namespace HostProbe.Settings

abbrev Tree := Json

namespace Tree

mutual

/-- Later settings over earlier ones: objects are joined member by member, lists stand one behind the other, and all else
is replaced. -/
def overlay (earlier : Tree) : Tree → Tree
  | .object members =>
    match earlier with
    | .object earlier => .object (overlayMembers earlier members)
    | _ => .object members
  | .list items =>
    match earlier with
    | .list earlier => .list (earlier ++ items)
    | _ => .list items
  | .null => .null
  | .bool b => .bool b
  | .int n => .int n
  | .real x => .real x
  | .text s => .text s

def overlayMembers (earlier : List (String × Tree)) : List (String × Tree) → List (String × Tree)
  | [] => earlier
  | (name, value) :: rest =>
    let value := match (earlier.find? fun m => m.1 == name).map (·.2) with
      | some old => overlay old value
      | none => value
    overlayMembers (Json.setMember name value earlier) rest

end

/-- What the names lead to; an empty name ends the path. -/
def at? (tree : Tree) : List String → Option Tree
  | [] => some tree
  | name :: rest => if name.isEmpty then some tree else (tree.get? name).bind fun inner => at? inner rest

/-- A tree with nothing but a value at the end of a path; an empty name ends the path. -/
def nest (value : Tree) : List String → Tree
  | [] => value
  | name :: rest => if name.isEmpty then value else .object [(name, nest value rest)]

theorem at?_nest (value : Tree) (names : List String) : (nest value names).at? names = some value := by
  induction names with
  | nil => rfl
  | cons name rest ih =>
    by_cases h : name.isEmpty
    · simp [nest, at?, h]
    · simp [nest, at?, h, Json.get?, ih]

end Tree

def names (key : String) : List String := (key.toList.splitOn '.').map String.ofList

def flatten (key : String) : String := String.ofList (key.toList.map fun c => if c = '.' then '_' else c)

end HostProbe.Settings
