import HostProbe.Growth

/-! The settings that every query of a probe shares. -/
namespace HostProbe

structure Context where
  /-- Errors that are swallowed are worth a line in the log. -/
  debug : Bool := false
  testing : Bool := false
  /-- Where the process file system is mounted. -/
  procfsRoot : String := "/proc"
  /-- Milliseconds after which a call counts as hanging. -/
  hangingCallTimeout : Nat := 100
  buffers : BufferPolicy := {}
  deriving Repr, DecidableEq, Inhabited

end HostProbe
