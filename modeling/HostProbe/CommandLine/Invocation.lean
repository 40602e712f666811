import HostProbe.CommandLine.Arguments
import HostProbe.Log.Line
import HostProbe.Question

/-! One question put on the command line: what is asked, about what, and how the answer is written. -/
namespace HostProbe

def Resource.argument : Resource → String
  | addressSpace => "as"
  | coreFileSize => "core"
  | cpuTime => "cpu"
  | dataSize => "data"
  | fileSize => "fsize"
  | locks => "locks"
  | lockedMemory => "memlock"
  | messageQueue => "msgqueue"
  | nice => "nice"
  | openFiles => "open-files"
  | processes => "nproc"
  | residentSet => "rss"
  | realtimePriority => "rtprio"
  | realtimeTime => "rttime"
  | pendingSignals => "sigpending"
  | stackSize => "stack"

def readPid? (text : Text) : Option Pid :=
  (Integer.int64? text).filter fun n => -0x80000000 ≤ n && n ≤ 0x7fffffff

namespace CommandLine

inductive Setting
  | question
  | verbose
  | configuration
  | pid
  | kind
  | path
  | all
  | resource
  | pretty
  | help
  deriving Repr, DecidableEq, Inhabited

def grammar : Grammar Setting where
  positional := .question
  options := [
    ⟨.verbose, "verbose", some 'v', false⟩,
    ⟨.configuration, "config", some 'c', true⟩,
    ⟨.pid, "pid", none, true⟩,
    ⟨.kind, "kind", none, true⟩,
    ⟨.path, "path", none, true⟩,
    ⟨.all, "all", none, false⟩,
    ⟨.resource, "resource", none, true⟩,
    ⟨.pretty, "pretty", none, false⟩,
    ⟨.help, "help", some 'h', false⟩]

/-- Whether an option has a value and may be given only once, as all but the count and the call for help. -/
def Setting.takesValue (s : Setting) : Bool :=
  s == .question || grammar.options.any fun o => o.option == s && o.takesValue

structure Invocation where
  question? : Option Question := none
  verbosity : Nat := 0
  configuration? : Option String := none
  pid? : Option Pid := none
  filter : ConnectionFilter := .inet
  path : String := "/"
  all : Bool := false
  resource : Resource := .openFiles
  pretty : Bool := false
  deriving Inhabited

namespace Invocation

def withValue (i : Invocation) (setting : Setting) (value : String) : Except UsageError Invocation :=
  let orElse {α : Type} (error : UsageError) (a : Option α) (set : α → Invocation) := match a with
    | some a => Except.ok (set a)
    | none => .error error
  let path? : Option String := if value.isEmpty then none else some value
  match setting with
  | .question => orElse .invalidValue (Question.named? value) fun q => { i with question? := some q }
  | .configuration => orElse .invalidValue path? fun path => { i with configuration? := some path }
  | .pid => orElse .valueValidation (readPid? value.toList) fun pid => { i with pid? := some pid }
  | .kind => orElse .valueValidation (ConnectionFilter.ofKind value).toOption fun filter => { i with filter }
  | .path => orElse .invalidValue path? fun path => { i with path }
  | .resource =>
    orElse .invalidValue (Resource.all.find? fun r => r.argument == value) fun resource => { i with resource }
  | .verbose | .all | .pretty | .help => .ok i

def withFlag (i : Invocation) : Setting → Except UsageError Invocation
  | .help => .error .displayHelp
  | .verbose => .ok { i with verbosity := i.verbosity + 1 }
  | .all => .ok { i with all := true }
  | .pretty => .ok { i with pretty := true }
  | .question | .configuration | .pid | .kind | .path | .resource => .ok i

/-- Settles the next option, after the settings of the earlier ones: a value that is needed must be there, and only the
verbosity may be given again. -/
def settle (earlier : List Setting) (i : Invocation) (g : Given Setting) : Except UsageError Invocation :=
  let repeated := g.option != .verbose && earlier.contains g.option
  if g.option.takesValue then
    match g.value? with
    | none => .error .invalidValue
    | some value => if repeated then .error .argumentConflict else i.withValue g.option value
  else if repeated then .error .argumentConflict
  else i.withFlag g.option

def settleAll : List Setting → Invocation → List (Given Setting) → Except UsageError Invocation
  | _, i, [] => .ok i
  | earlier, i, g :: rest =>
    match i.settle earlier g with
    | .error e => .error e
    | .ok i => i.settleAll (g.option :: earlier) rest

/-- Reads the words of a command line: the first option that does not settle decides, then the word at which reading
stopped, and last the lack of a question. -/
def parse (words : List String) : Except UsageError (Invocation × Question) :=
  let arguments := Arguments.ofWords grammar words
  match settleAll [] {} arguments.inOrder, arguments.stopped? with
  | .error e, _ => .error e
  | .ok _, some e => .error e
  | .ok i, none =>
    match i.question? with
    | some question => .ok (i, question)
    | none => .error .missingRequiredArgument

/-- What the question is about; without a process it is the asking one. -/
def subject (i : Invocation) (self : Pid) : Subject :=
  { pid := i.pid?.getD self
    path := i.path
    all := i.all
    filter := i.filter
    resource := i.resource }

def level? (i : Invocation) : Option Log.Level :=
  match i.verbosity with
  | 0 => none
  | 1 => some .debug
  | _ => some .trace

end Invocation
end CommandLine

def ErrorKind.exitCode : ErrorKind → Nat
  | notFound => 3
  | permissionDenied => 4
  | zombieProcess => 5
  | unsupported => 6
  | outOfMemory => 7
  | transient => 8

def Question.complaint (q : Question) (e : Error) : String := s!"{q.title} failed: {e.message}"

end HostProbe
