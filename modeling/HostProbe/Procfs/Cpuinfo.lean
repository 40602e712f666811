import HostProbe.Procfs.Fields

/-! Processors as `cpuinfo` describes them, one block of lines each. -/
namespace HostProbe.Procfs

/-- The cores seen so far, and the identities given in the block at hand. -/
structure CoreCount where
  cores : List (Nat × Nat) := []
  package : Option Nat := none
  core : Option Nat := none
  deriving Repr

/-- Takes one line; a blank one ends the block. -/
def CoreCount.readLine (c : CoreCount) (line : Text) : CoreCount :=
  let line := line.trim
  if line.isEmpty then
    match c.package, c.core with
    | some package, some core =>
      ⟨if c.cores.contains (package, core) then c.cores else (package, core) :: c.cores, none, none⟩
    | _, _ => ⟨c.cores, none, none⟩
  else
    match line.splitOnce ':' with
    | none => c
    | some (key, value) =>
      if key.trim = "physical id".toList then { c with package := Integer.word32? value.trim }
      else if key.trim = "core id".toList then { c with core := Integer.word32? value.trim }
      else c

/-- Number of distinct cores among the blocks that name their package and core. -/
def coresFromCpuinfo (text : Text) : Nat := ((text.lines ++ [[]]).foldl CoreCount.readLine {}).cores.length

def megahertzFromCpuinfo (text : Text) : List Float :=
  text.lines.filterMap fun line => do
    let (key, value) ← line.splitOnce ':'
    if key.trim.lower = "cpu mhz".toList then Real.read? value.trim else none

end HostProbe.Procfs
