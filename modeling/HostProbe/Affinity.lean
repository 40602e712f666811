import HostProbe.Error

/-! Sets of processors as masks of 64-bit words, the first processor in the lowest bit of the first word. -/
namespace HostProbe.Affinity

/-- Words of the smallest mask that is handed to the kernel. -/
def initialWords : Nat := 1024 / 64

def cpusOfMask (mask : List Nat) : List Nat :=
  mask.zipIdx.flatMap fun (word, i) =>
    (List.range 64).filterMap fun bit => if word.testBit bit then some (i * 64 + bit) else none

def setCpu (mask : List Nat) (cpu : Nat) : List Nat := mask.modify (cpu / 64) (· ||| 1 <<< (cpu % 64))

def maskOfCpus (cpus : List Nat) : List Nat :=
  let words := max (cpus.foldl (fun n cpu => max n (cpu / 64 + 1)) 0) initialWords
  cpus.foldl setCpu (List.replicate words 0)

end HostProbe.Affinity
