import HostProbe.Text.Blank

/-! Paths as text with slashes: joining, parents and whether they begin at the root. -/
namespace HostProbe.Path

def isAbsolute (path : String) : Bool := path.toList.head? = some '/'

/-- The second path seen from the first; an absolute one stands for itself. -/
def join (base relative : String) : String :=
  if isAbsolute relative then relative
  else if base.isEmpty || base.toList.getLast? = some '/' then base ++ relative
  else base ++ "/" ++ relative

/-- Drops slashes and single points that end a reversed path, but not its root. -/
def dropEmptyEnd : Text → Text
  | '/' :: c :: rest => dropEmptyEnd (c :: rest)
  | '.' :: '/' :: rest => dropEmptyEnd ('/' :: rest)
  | path => path

def parent? (path : String) : Option String :=
  match dropEmptyEnd path.toList.reverse with
  | [] | ['/'] => none
  | reversed => some (String.ofList (dropEmptyEnd (reversed.dropWhile (· != '/'))).reverse)

def fileName? (path : String) : Option String :=
  match (dropEmptyEnd path.toList.reverse).takeWhile (· != '/') with
  | [] | ['.'] | ['.', '.'] => none
  | reversed => some (String.ofList reversed.reverse)

def components (path : String) : List String :=
  (path.toList.splitOn '/').map String.ofList

end HostProbe.Path
