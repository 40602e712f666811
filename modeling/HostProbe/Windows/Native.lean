import HostProbe.Bytes
import HostProbe.Context
import HostProbe.Growth
import HostProbe.Program
import HostProbe.Windows.Records

/-! Native calls of Windows: what their statuses mean, and buffers that grow until an answer fits. -/
namespace HostProbe.Windows

namespace NtStatus

def bufferOverflow : NtStatus := 0x80000005
def lengthMismatch : NtStatus := 0xC0000004
def bufferTooSmall : NtStatus := 0xC0000023

def isFailure (status : NtStatus) : Bool := status.testBit 31

def number (status : NtStatus) : ErrorNumber := status % 256

end NtStatus

def fileNotFound : ErrorNumber := 2
def pathNotFound : ErrorNumber := 3
def invalidParameter : ErrorNumber := 87
def insufficientBuffer : ErrorNumber := 122

def nativeFailure {α : Type} (call : String) (status : NtStatus) : Query α :=
  Query.report (.os call (.number (NtStatus.number status)))

def codeFailure {α : Type} (call : String) (code : ReturnCode) : Query α :=
  Query.report (.os call (.number (Word.toInt 32 code)))

def answered {α : Type} (call : String) : Except IoError α → Query α
  | .ok a => return a
  | .error cause => Query.report (.os call cause)

structure Filled where
  bytes : Bytes
  address : Nat
  deriving Repr, DecidableEq, Inhabited

/-- The first bytes of a buffer of a size, as many as the call reports; what it did not write is zero. -/
def NativeReply.filled (r : NativeReply) (size : Nat) : Filled :=
  ⟨((Buffer.zeroed size).fill r.bytes).first (min r.length size), r.address⟩

/-- Repeats a native call with larger and larger buffers while its status is one of those that ask for room. -/
def nativeUntilFits (context : Context) (call : String) (initial : Nat) (lacksRoom : List NtStatus)
    (ask : Nat → Program NativeReply) : Query Filled :=
  Growth.wordsUntilDone context.buffers call initial fun size => do
    let reply ← (ask size : Program NativeReply)
    if lacksRoom.contains reply.status then
      return .tooSmall (if reply.length = 0 then none else some reply.length)
    if NtStatus.isFailure reply.status then nativeFailure call reply.status
    return .done (NativeReply.filled reply size)

def systemInformation (context : Context) (cls : Nat) (name : String) (initial : Nat) : Query Filled :=
  nativeUntilFits context s!"NtQuerySystemInformation({name})" initial
    [NtStatus.lengthMismatch, NtStatus.bufferTooSmall] fun size => Ask.windows (.system cls size)

/-- Repeats a call with larger and larger buffers, the failures of which are reported by the given function. -/
def roomUntilFits {ε α : Type} (context : Context) (call : String) (initial : Nat)
    (ask : Nat → Program (RoomReply ε α)) (failure : ε → Query α) : Query α :=
  Growth.wordsUntilDone context.buffers call initial fun size => do
    match ← (ask size : Program (RoomReply ε α)) with
    | .filled answer => return .done answer
    | .tooSmall needed => return .tooSmall (some needed)
    | .failed cause => return .done (← failure cause)

end HostProbe.Windows
