import HostProbe.CommandLine.Invocation
import HostProbe.Json.Printer
import HostProbe.Linux
import HostProbe.Settings.Preferences
import HostProbe.Settings.Source

/-! The program: one question from the command line, with settings from a file and from the environment, answered on
standard output, or refused with an exit status that tells why. -/
namespace HostProbe.CommandLine

inductive Ending
  | usage (error : UsageError)
  /-- Something was wrong before the question was asked. -/
  | fatal (message : String)
  | failed (question : Question) (error : Error)
  | aborted
  | answered (value : Json) (pretty : Bool)
  deriving Inhabited

namespace Ending

def exitCode : Ending → Nat
  | usage .displayHelp => 0
  | usage _ => 2
  | fatal _ => 1
  | failed _ e => e.kind.exitCode
  | aborted => 101
  | answered .. => 0

def output : Ending → String
  | answered value pretty => (if pretty then value.renderPretty else value.render) ++ "\n"
  | _ => ""

def complaint : Ending → String
  | fatal message => s!"FATAL: {message}\n"
  | failed question e => question.complaint e ++ "\n"
  | _ => ""

end Ending

def loadSettings (i : Invocation) (environment : List (String × String)) (origin : String) :
    Program (Except ErrorChain Settings) := do
  let file : Except ErrorChain Settings ← match i.configuration? with
    | none => pure (.ok .empty)
    | some path =>
      let loaded ← Settings.empty.withFile .yaml path
      pure (loaded.mapError fun e => e.chain.inContext s!"Failed to load configuration file '{path}'.")
  return do
    let settings ← file
    (settings.withVariables "sysprobe" environment origin).mapError fun e =>
      e.chain.inContext "Failed to read environment configuration."

structure Preparation where
  preferences : Log.Preferences
  context : Context
  deriving Inhabited

/-- Prepares a run; the first thing that is wrong ends it. -/
def prepare (i : Invocation) (environment : List (String × String)) (origin : String) :
    Program (Except String Preparation) := do
  let settings ← loadSettings i environment origin
  return do
    let settings ← settings.mapError fun e => s!"failed to load configuration: {e.render}"
    let preferences ← (Log.Preferences.ofSettings settings).mapError fun e =>
      s!"invalid logging configuration: {e.render}"
    let context ← (Context.ofSettings settings).mapError fun e => s!"invalid binding configuration: {e.render}"
    return { preferences := (i.level?.map preferences.withLevel).getD preferences, context }

def answer (i : Invocation) (question : Question) (context : Context) (self : Pid) : Program Ending := do
  let platform := Linux.platform (← Linux.Probe.new context)
  let (outcome, _) ← (question.ask platform (i.subject self)).run.run {}
  return match outcome with
    | .ok value => .answered value i.pretty
    | .error (.report e) => .failed question e
    | .error .abort => .aborted

/-- Runs the program for a process that knows its own number; diagnostics name its variables by their origin. -/
def run (words : List String) (environment : List (String × String)) (self : Pid)
    (origin : String := "environment variables") : Program Ending := do
  match Invocation.parse words with
  | .error e => return .usage e
  | .ok (i, question) =>
    match ← prepare i environment origin with
    | .error message => return .fatal message
    | .ok preparation => answer i question preparation.context self

end HostProbe.CommandLine
