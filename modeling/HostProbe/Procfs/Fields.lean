import HostProbe.Number.Real
import HostProbe.Text.Quoted
import HostProbe.Word

/-! The shapes that lines of the process file system share: columns between blanks, and keys with an amount. -/
namespace HostProbe.Procfs

def skipFields (line : Text) (n : Nat) : Text :=
  go n line.trimStart
where
  go : Nat → Text → Text
    | 0, rest => rest
    | n + 1, rest => go n (Text.trimStart (rest.dropWhile fun c => !isBlank c))

/-- Key and amount in bytes of a line such as `Rss: 4 kB`; an amount without that unit counts single bytes. Lines of
other shapes have no amount, and one that passes a word aborts. -/
def keyedAmount (line : Text) : Outcome (Option (Text × Nat)) :=
  match line.splitOnce ':' with
  | none => .ok none
  | some (key, rest) =>
    match Text.words rest with
    | [] => .ok none
    | value :: unit =>
      match Integer.word? value with
      | none => .ok none
      | some n => do
        let amount ← Word.mul n (if unit.head? = some "kB".toList then 1024 else 1)
        return some (Text.trim key, amount)

def keyedAmounts (text : Text) : Outcome (List (Text × Nat)) := do
  return (← text.lines.mapM keyedAmount).filterMap id

def lastOf? {α : Type} (pairs : List (Text × α)) (key : String) : Option α :=
  (pairs.reverse.find? fun p => p.1 == key.toList).map (·.2)

end HostProbe.Procfs
