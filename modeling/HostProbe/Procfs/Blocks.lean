import HostProbe.Bytes
import HostProbe.Table

/-! Arguments and environments, kept as blocks of entries that zero bytes end. -/
namespace HostProbe

namespace Procfs

/-- Arguments of a command line; one that was overwritten by a title without zero bytes is cut at its spaces. -/
def splitCommandLine (raw : Bytes) : List String :=
  let args := Bytes.splitNul raw
  match args with
  | [only] =>
    let text := Utf8.decodeLossy only
    if raw.getLast? ≠ some 0 && text.contains ' ' then
      ((text.splitOn ' ').filter fun a => !a.isEmpty).map String.ofList
    else [String.ofList text]
  | args => args.map Utf8.toString

end Procfs

namespace Environment

/-- Key and value of an entry; the separator is not sought in the first character, since some keys begin with it. -/
def splitEntry (entry : Text) : Option (Text × Text) :=
  match entry with
  | [] => none
  | c :: rest => (Text.splitOnce '=' rest).map fun (key, value) => (c :: key, value)

/-- Variables of the entries that have a separator; the last entry of a key counts. -/
def ofEntries (entries : List String) : Table String :=
  Table.ofList (entries.filterMap fun e =>
    (splitEntry e.toList).map fun (k, v) => (String.ofList k, String.ofList v))

end Environment
end HostProbe
