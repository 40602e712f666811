import HostProbe.Text.Blank

/-! Command lines of Windows, which programs receive as one text. The program's name ends at a blank or a closing
quote; behind it, quotes join blanks to an argument, and backslashes are special only before a quote. -/
namespace HostProbe.Windows.CommandLine

def isBlank (c : Char) : Bool := c == ' ' || c == '\t'

def program (line : Text) : Text × Text :=
  match line with
  | '"' :: rest => (rest.takeWhile (· != '"'), (rest.dropWhile (· != '"')).drop 1)
  | _ => (line.takeWhile fun c => !isBlank c, line.dropWhile fun c => !isBlank c)

structure Reading where
  /-- Whole arguments, newest first. -/
  found : List Text := []
  /-- Characters of the argument that has begun, newest first. -/
  current : Option Text := none
  quoted : Bool := false
  /-- Whether the last character closed a quotation, which another quote would continue. -/
  closed : Bool := false
  /-- Backslashes whose meaning the next character decides. -/
  slashes : Nat := 0
  deriving Repr, DecidableEq, Inhabited

namespace Reading

def withSlashes (r : Reading) (count : Nat) : Text := List.replicate count '\\' ++ r.current.getD []

/-- A quote after an odd number of backslashes is itself; otherwise it opens or closes a quotation, or stands for
itself right behind a closing one. Of the backslashes half are kept. -/
def quote (r : Reading) : Reading :=
  let kept := r.withSlashes (r.slashes / 2)
  if r.slashes % 2 = 1 then { r with current := some ('"' :: kept), closed := false, slashes := 0 }
  else if r.quoted then { r with current := some kept, quoted := false, closed := true, slashes := 0 }
  else if r.closed then { r with current := some ('"' :: kept), quoted := true, closed := false, slashes := 0 }
  else { r with current := some kept, quoted := true, closed := false, slashes := 0 }

def finish (r : Reading) : Reading :=
  match r.current with
  | none => r
  | some _ => { found := (r.withSlashes r.slashes).reverse :: r.found }

def step (r : Reading) (c : Char) : Reading :=
  if c = '\\' then { r with current := some (r.current.getD []), closed := false, slashes := r.slashes + 1 }
  else if c = '"' then r.quote
  else if isBlank c && !r.quoted then r.finish
  else { r with current := some (c :: r.withSlashes r.slashes), closed := false, slashes := 0 }

end Reading

def arguments (rest : Text) : List Text := (rest.foldl Reading.step {}).finish.found.reverse

def split (line : Text) : List Text :=
  if line.isEmpty then [] else (program line).1 :: arguments (program line).2

end HostProbe.Windows.CommandLine
