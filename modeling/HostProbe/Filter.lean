import HostProbe.Error

/-! Sets of address families and socket types, and the filters on connections that pair them. -/
namespace HostProbe

/-- A set of address families, one bit each; bits that name no family are kept and never shown. -/
structure FamilySet where
  bits : UInt8
  deriving Repr, DecidableEq, Inhabited

/-- A set of socket types, one bit each; bits that name no type are kept and never shown. -/
structure SocketTypeSet where
  bits : UInt8
  deriving Repr, DecidableEq, Inhabited

def bitsContain (set part : UInt8) : Bool := set &&& part == part

/-- Whether the sets share a member; the empty set is met by every set. -/
def bitsMeet (set part : UInt8) : Bool := set &&& part != 0 || part == 0

def bitNames (set : UInt8) (names : List (UInt8 × String)) : List String :=
  names.filterMap fun (bit, name) => if set &&& bit != 0 then some name else none

namespace FamilySet

def inet : FamilySet := ⟨1⟩
def inet6 : FamilySet := ⟨2⟩
def unix : FamilySet := ⟨4⟩
def all : FamilySet := ⟨255⟩

def union (a b : FamilySet) : FamilySet := ⟨a.bits ||| b.bits⟩

def contains (a b : FamilySet) : Bool := bitsContain a.bits b.bits

def meets (a b : FamilySet) : Bool := bitsMeet a.bits b.bits

def text (a : FamilySet) : String := "|".intercalate (bitNames a.bits [(1, "inet"), (2, "inet6"), (4, "unix")])

def diagnostic (a : FamilySet) : String :=
  "AddressFamilies[" ++ ", ".intercalate (bitNames a.bits [(1, "Inet"), (2, "Inet6"), (4, "Unix")]) ++ "]"

end FamilySet

namespace SocketTypeSet

def stream : SocketTypeSet := ⟨1⟩
def datagram : SocketTypeSet := ⟨2⟩
def seqPacket : SocketTypeSet := ⟨4⟩
def all : SocketTypeSet := ⟨255⟩

def union (a b : SocketTypeSet) : SocketTypeSet := ⟨a.bits ||| b.bits⟩

def contains (a b : SocketTypeSet) : Bool := bitsContain a.bits b.bits

def meets (a b : SocketTypeSet) : Bool := bitsMeet a.bits b.bits

def text (a : SocketTypeSet) : String :=
  "|".intercalate (bitNames a.bits [(1, "stream"), (2, "dgram"), (4, "seqpacket")])

def diagnostic (a : SocketTypeSet) : String :=
  "SocketTypes[" ++ ", ".intercalate (bitNames a.bits [(1, "Stream"), (2, "Datagram"), (4, "SeqPacket")]) ++ "]"

end SocketTypeSet

structure ConnectionFilter where
  families : FamilySet
  types : SocketTypeSet
  deriving Repr, DecidableEq, Inhabited

namespace ConnectionFilter

def all : ConnectionFilter := ⟨.all, .all⟩

/-- Stream and datagram sockets of both internet families; the filter used when none is given. -/
def inet : ConnectionFilter := ⟨.union .inet .inet6, .union .stream .datagram⟩

def selects (f : ConnectionFilter) (family : FamilySet) (type : SocketTypeSet) : Bool :=
  f.families.contains family && f.types.contains type

/-- Whether connections of some of the families and types may be listed. -/
def wants (f : ConnectionFilter) (families : FamilySet) (types : SocketTypeSet) : Bool :=
  f.families.meets families && f.types.meets types

def ofKind (kind : String) : Outcome ConnectionFilter :=
  let internet := FamilySet.union .inet .inet6
  let both := SocketTypeSet.union .stream .datagram
  match kind with
  | "all" => .ok all
  | "inet" => .ok inet
  | "inet4" => .ok ⟨.inet, both⟩
  | "inet6" => .ok ⟨.inet6, both⟩
  | "tcp" => .ok ⟨internet, .stream⟩
  | "tcp4" => .ok ⟨.inet, .stream⟩
  | "tcp6" => .ok ⟨.inet6, .stream⟩
  | "udp" => .ok ⟨internet, .datagram⟩
  | "udp4" => .ok ⟨.inet, .datagram⟩
  | "udp6" => .ok ⟨.inet6, .datagram⟩
  | "unix" => .ok ⟨.unix, .all⟩
  | other => Outcome.report (.unsupported s!"connection kind `{other}`")

end ConnectionFilter
end HostProbe
