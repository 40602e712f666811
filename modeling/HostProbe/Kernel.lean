/-! The kernels that a probe knows how to ask. -/
namespace HostProbe

inductive Kernel
  | linux
  | cygwin
  | sunos
  | aix
  | windows
  | freebsd
  | openbsd
  | netbsd
  | macos
  | haiku
  | other
  deriving Repr, DecidableEq, Inhabited

namespace Kernel

/-- The kernel of a name; names that are not known belong to one of which nothing is. -/
def ofName : String → Kernel
  | "linux" => linux
  | "cygwin" => cygwin
  | "sunos" => sunos
  | "aix" => aix
  | "windows" => windows
  | "freebsd" => freebsd
  | "openbsd" => openbsd
  | "netbsd" => netbsd
  | "macos" => macos
  | "haiku" => haiku
  | _ => other

/-- Systems whose recordings leave questions to the machine that they are played on. -/
def isMachine (kernel : Kernel) : Bool := [linux, cygwin, sunos, aix].contains kernel

end Kernel
end HostProbe
