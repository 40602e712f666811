import HostProbe.Text.Blank

/-! Words of a command line sorted into options, their values and one positional argument.

Reading goes from left to right and says which option takes which word; whether the values make sense is settled
afterwards, in the order in which the options are complete. -/
namespace HostProbe.CommandLine

inductive UsageError
  | invalidValue
  | valueValidation
  | unknownArgument
  | argumentConflict
  | tooManyValues
  | missingRequiredArgument
  | displayHelp
  deriving Repr, DecidableEq, Inhabited

structure OptionName (α : Type) where
  option : α
  long : String
  short? : Option Char := none
  takesValue : Bool := false
  deriving Repr

structure Grammar (α : Type) where
  options : List (OptionName α)
  positional : α

namespace Grammar

variable {α : Type}

def long? (g : Grammar α) (name : Text) : Option (OptionName α) := g.options.find? fun o => o.long.toList == name

def short? (g : Grammar α) (letter : Char) : Option (OptionName α) := g.options.find? fun o => o.short? == some letter

end Grammar

structure Given (α : Type) where
  option : α
  value? : Option String := none
  /-- Whether the next option completes it; until then an unreadable word drops it. -/
  pending : Bool := false
  deriving Repr, DecidableEq

structure Arguments (α : Type) where
  /-- Options so far, newest first. -/
  given : List (Given α) := []
  /-- Whether the newest option still waits for its value. -/
  waiting : Bool := false
  /-- Whether the words that follow are no options, whatever they look like. -/
  escaped : Bool := false
  /-- Whether the positional argument is taken. -/
  positioned : Bool := false
  stopped? : Option UsageError := none

namespace Arguments

variable {α : Type}

/-- Gives up; a pending option is dropped without a look at its value. -/
def stop (a : Arguments α) (error : UsageError) : Arguments α :=
  let given := match a.given with
    | g :: rest => if g.pending then rest else a.given
    | [] => []
  { a with given, waiting := false, stopped? := some error }

def take (a : Arguments α) (option : α) (value? : Option String) : Arguments α :=
  { a with given := ⟨option, value?, false⟩ :: a.given, waiting := false }

def await (a : Arguments α) (option : α) : Arguments α :=
  { a with given := ⟨option, none, true⟩ :: a.given, waiting := true }

def supply (a : Arguments α) (value : String) : Arguments α :=
  { a with given := a.given.modifyHead fun g => { g with value? := some value }, waiting := false }

def position (g : Grammar α) (a : Arguments α) (word : String) : Arguments α :=
  if a.positioned then a.stop .unknownArgument
  else { a with given := ⟨g.positional, some word, true⟩ :: a.given, waiting := false, positioned := true }

def long (g : Grammar α) (a : Arguments α) (body : Text) : Arguments α :=
  let (name, value?) := match Text.splitOnce '=' body with
    | some (name, value) => (name, some (String.ofList value))
    | none => (body, none)
  match g.long? name, value? with
  | none, _ => a.stop .unknownArgument
  | some o, some value => if o.takesValue then a.take o.option (some value) else a.stop .tooManyValues
  | some o, none => if o.takesValue then a.await o.option else a.take o.option none

/-- Letters after a dash; the first one that takes a value takes the rest of the word, less one equals sign. -/
def short (g : Grammar α) (a : Arguments α) : Text → Arguments α
  | [] => a
  | letter :: rest =>
    match g.short? letter with
    | none => a.stop .unknownArgument
    | some o =>
      if !o.takesValue then (a.take o.option none).short g rest
      else match rest with
        | [] => a.await o.option
        | '=' :: value => a.take o.option (some (String.ofList value))
        | value => a.take o.option (some (String.ofList value))

def read (g : Grammar α) (a : Arguments α) (word : String) : Arguments α :=
  if a.stopped?.isSome then a
  else if a.escaped then a.position g word
  else match word.toList with
    | ['-', '-'] => { a with escaped := true }
    | '-' :: '-' :: body => a.long g body
    | '-' :: letter :: rest => a.short g (letter :: rest)
    | _ => if a.waiting then a.supply word else a.position g word

def ofWords (g : Grammar α) (words : List String) : Arguments α := words.foldl (read g) {}

def inOrder (a : Arguments α) : List (Given α) := a.given.reverse

end Arguments
end HostProbe.CommandLine
