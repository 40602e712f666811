import HostProbe.Context
import HostProbe.Log.Filter
import HostProbe.Settings

/-! What the settings say: the context of a probe, and what is logged. -/
namespace HostProbe

open Settings (Reader)

/-! ### The context -/

def Settings.contextSetting {α : Type} (s : Settings) (read : Reader α) (key : String) :
    Except ErrorChain (Option α) :=
  (s.get? read key).mapError fun fault => fault.chain.inContext ("Invalid `" ++ key ++ "` setting.")

def Context.ofSettings (s : Settings) : Except ErrorChain Context := do
  let context : Context := {}
  let debug ← s.contextSetting Reader.flag "debug"
  let testing ← s.contextSetting Reader.flag "testing"
  let root ← s.contextSetting Reader.path "procfs_root"
  let timeout ← s.contextSetting Reader.word "hanging_call_timeout_ms"
  let maxSize ← s.contextSetting Reader.size "buffer.max_size"
  let maxAttempts ← s.contextSetting Reader.size "buffer.max_attempts"
  let buffers := (maxSize.map fun n => context.buffers.withMaxSize n.toNat).getD context.buffers
  let buffers := (maxAttempts.map fun n => buffers.withMaxAttempts n.toNat).getD buffers
  return {
    debug := debug.getD context.debug
    testing := testing.getD context.testing
    procfsRoot := root.join.getD context.procfsRoot
    hangingCallTimeout := (timeout.map Int.toNat).getD context.hangingCallTimeout
    buffers }

/-! ### The log -/

namespace Log

structure Preferences where
  filter : Filter := .upTo (some .warn)
  json : Bool := false
  deriving Repr, DecidableEq, Inhabited

def Filter.reader : Reader Filter := fun j => do
  let text ← Reader.text j
  if text.isEmpty then throw ⟨.message "Log level cannot be empty.", []⟩
  else
    match Filter.read? text.toList with
    | some filter => return filter
    | none => throw ⟨.message "Failed to parse valid log level.", []⟩

def Preferences.ofSettings (s : Settings) : Except ErrorChain Preferences := do
  let preferences : Except Settings.Fault Preferences := do
    let json ← s.member Reader.flag "log_format_json" false
    let filter ← s.member Filter.reader "log_level" (.upTo (some .warn))
    return { filter, json }
  preferences.mapError fun fault => fault.chain.inContext "Failed to extract logging configuration."

def Preferences.withLevel (p : Preferences) (level : Level) : Preferences := { p with filter := .upTo (some level) }

end Log

end HostProbe
