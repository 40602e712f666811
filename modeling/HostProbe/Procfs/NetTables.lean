import HostProbe.Bytes
import HostProbe.Procfs.Fields
import HostProbe.Record.Network
import HostProbe.Table

/-! Network traffic and sockets, from the tables under `net`. -/
namespace HostProbe.Procfs

def parseNetDevLine (line : Text) : Outcome (Option (String × NetIoCounters)) :=
  match line.splitOnce ':' with
  | none => .ok none
  | some (name, rest) =>
    let name := String.ofList name.trim
    let fail {α : Type} (detail : String) : Outcome α :=
      Outcome.report (.parse "/proc/net/dev" (name ++ ": " ++ detail))
    do
      let values ← rest.words.mapM fun v =>
        match Integer.word v with
        | .ok n => (.ok n : Outcome Nat)
        | .error fault => fail fault.message
      match values with
      | bytesReceived :: packetsReceived :: errorsIn :: dropsIn :: _ :: _ :: _ :: _ :: bytesSent :: packetsSent
          :: errorsOut :: dropsOut :: _ :: _ :: _ :: _ :: _ =>
        return some (name, {
          bytesSent, bytesReceived, packetsSent, packetsReceived, errorsIn, errorsOut, dropsIn, dropsOut })
      | _ => fail "too few columns"

def parseNetDev (text : Text) : Outcome (Table NetIoCounters) := do
  return Table.ofList ((← (text.lines.drop 2).mapM parseNetDevLine).filterMap id)

@[ext]
structure InetSocket where
  localEnd : SocketAddress
  remoteEnd : Option SocketAddress
  status : ConnectionStatus
  inode : Nat
  deriving Repr, DecidableEq

/-- Octets of one word in hexadecimal; the word was printed as a native number of the machine. -/
def hexWord? (digits : Bytes) : Option Bytes :=
  ((Utf8.decode? digits).bind (Integer.hex? 0xffffffff)).map (Bytes.ofNat 4)

/-- Whether a text can be cut before these bytes, which must not be inside a character. -/
def atBoundary (rest : Bytes) : Bool :=
  match rest with
  | [] => true
  | b :: _ => b < 0x80 || 0xC0 ≤ b

/-- Octets of so many words; a word that begins or ends inside a character aborts. -/
def hexWords (bad : Fault) : Nat → Bytes → Outcome Bytes
  | 0, _ => .ok []
  | n + 1, digits =>
    if !atBoundary digits || !atBoundary (digits.drop 8) then Outcome.abort
    else
      match hexWord? (digits.take 8) with
      | none => .error bad
      | some octets => do return octets ++ (← hexWords bad n (digits.drop 8))

/-- Reads an address and port in hexadecimal, the address as one word or four. -/
def parseHexSocketAddress (field : Text) : Outcome SocketAddress :=
  let bad : Fault := .report (.parse "/proc/net" ("bad address " ++ Text.quoted field))
  match field.splitOnce ':' with
  | none => .error bad
  | some (ip, port) =>
    match Integer.hex? 0xffff port with
    | none => .error bad
    | some port =>
      let bytes := Utf8.encode ip
      if bytes.length = 8 then
        match (hexWord? bytes).bind IpAddress.v4? with
        | some ip => .ok ⟨ip, port⟩
        | none => .error bad
      else if bytes.length = 32 then do
        match IpAddress.v6? (← hexWords bad 4 bytes) with
        | some ip => return ⟨ip, port⟩
        | none => .error bad
      else .error bad

/-- The socket on one line of an internet table; lines with too few columns hold none. -/
def parseInetLine (kind : SocketTypeSet) (line : Text) : Outcome (Option InetSocket) :=
  let fields := line.words
  let field (i : Nat) : Text := fields.getD i []
  let fail {α : Type} (what : String) (i : Nat) : Outcome α :=
    Outcome.report (.parse "/proc/net/tcp" ("bad " ++ what ++ " " ++ Text.quoted (field i)))
  if fields.length < 10 then .ok none
  else do
    let localEnd ← parseHexSocketAddress (field 1)
    let remote ← parseHexSocketAddress (field 2)
    let some state := Integer.hex? 255 (field 3) | fail "state" 3
    let some inode := Integer.word? (field 9) | fail "inode" 9
    return some {
      localEnd
      remoteEnd := if remote.ip.isUnspecified && remote.port == 0 then none else some remote
      status := if kind = .stream then .ofLinuxState state else .none
      inode }

def parseNetInet (text : Text) (kind : SocketTypeSet) : Outcome (List InetSocket) := do
  return (← (text.lines.drop 1).mapM (parseInetLine kind)).filterMap id

structure UnixSocket where
  kind : SocketTypeSet
  inode : Nat
  path : String
  deriving Repr, DecidableEq

def unixSocketType? (field : Text) : Option SocketTypeSet :=
  match Integer.hex? 0xffff field with
  | some 1 => some .stream
  | some 2 => some .datagram
  | some 5 => some .seqPacket
  | _ => none

/-- The socket on one line of the local table; lines of other types hold none. -/
def parseUnixLine (line : Text) : Outcome (Option UnixSocket) :=
  let fields := line.words
  if fields.length < 7 then .ok none
  else
    match unixSocketType? (fields.getD 4 []) with
    | none => .ok none
    | some kind =>
      let field := fields.getD 6 []
      match Integer.word? field with
      | none => Outcome.report (.parse "/proc/net/unix" ("bad inode " ++ Text.quoted field))
      | some inode => .ok (some { kind, inode, path := String.ofList (skipFields line 7) })

def parseNetUnix (text : Text) : Outcome (List UnixSocket) := do
  return (← (text.lines.drop 1).mapM parseUnixLine).filterMap id

def socketInode? (link : Text) : Option Nat :=
  ((Text.dropPrefix? "socket:[".toList link).bind (Text.dropSuffix? [']'])).bind Integer.word?

end HostProbe.Procfs
