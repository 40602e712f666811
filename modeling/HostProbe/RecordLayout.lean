import HostProbe.Bytes
import HostProbe.Error
import HostProbe.Number.Real

/-! Records of a fixed size in the bytes that a kernel hands out. -/
namespace HostProbe

/-- Size of a record and how its fields are read from that many bytes. -/
structure RecordLayout (α : Type) where
  size : Nat
  read : Bytes → α

namespace RecordLayout

variable {α : Type}

def first? (layout : RecordLayout α) (bytes : Bytes) : Option α := (Bytes.slice? bytes 0 layout.size).map layout.read

def at? (layout : RecordLayout α) (bytes : Bytes) (offset : Nat) : Option α :=
  (Bytes.slice? bytes offset layout.size).map layout.read

def all (layout : RecordLayout α) (bytes : Bytes) : List α := (Bytes.records layout.size bytes).map layout.read

def decode (layout : RecordLayout α) (path : String) (bytes : Bytes) : Outcome α :=
  Outcome.ofOption (.parse path s!"short read: {bytes.length} bytes, want {layout.size}") (layout.first? bytes)

end RecordLayout

namespace Bytes

def timeAt (bytes : Bytes) (offset nanosecondsSize : Nat) : Float :=
  Real.ofInt (intAt bytes offset 8) + Real.ofInt (intAt bytes (offset + 8) nanosecondsSize) / 1000000000.0

end Bytes
end HostProbe
