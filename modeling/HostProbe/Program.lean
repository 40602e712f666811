import HostProbe.Call.Files
import HostProbe.Call.Kernel
import HostProbe.Call.Posix
import HostProbe.Call.Windows

/-! Queries as trees of questions to a host. A tree says nothing about the host; running it against one, or
against any function from questions to answers, gives the result and the questions asked. -/
namespace HostProbe

inductive Call
  | file (c : FileCall)
  | posix (c : PosixCall)
  | kstat (c : KstatCall)
  | sysctl (c : SysctlCall)
  | mount (c : MountCall)
  | swap (c : SwapCall)
  | mach (c : MachCall)
  | team (c : TeamCall)
  | windows (c : WindowsCall)

@[reducible] def Call.Answer : Call → Type
  | file c => c.Answer
  | posix c => c.Answer
  | kstat c => c.Answer
  | sysctl c => c.Answer
  | mount c => c.Answer
  | swap c => c.Answer
  | mach c => c.Answer
  | team c => c.Answer
  | windows c => c.Answer

inductive Program (α : Type) : Type
  | done (a : α)
  | ask (c : Call) (next : c.Answer → Program α)

namespace Program

variable {α β γ : Type}

protected def bind : Program α → (α → Program β) → Program β
  | done a, f => f a
  | ask c next, f => ask c fun answer => (next answer).bind f

instance : Monad Program where
  pure := done
  bind := Program.bind

@[simp] theorem bind_done (a : α) (f : α → Program β) : (done a >>= f) = f a := rfl

@[simp] theorem bind_ask (c : Call) (next : c.Answer → Program α) (f : α → Program β) :
    (ask c next >>= f) = ask c fun answer => next answer >>= f := rfl

theorem bind_pure' (p : Program α) : (p >>= done) = p := by
  induction p with
  | done a => rfl
  | ask c next ih => simp only [bind_ask, ih]

theorem bind_assoc' (p : Program α) (f : α → Program β) (g : β → Program γ) :
    (p >>= f) >>= g = p >>= fun a => f a >>= g := by
  induction p with
  | done a => rfl
  | ask c next ih => simp only [bind_ask, ih]

instance : LawfulMonad Program :=
  LawfulMonad.mk' Program (fun p => bind_pure' p) (fun _ _ => rfl) (fun p f g => bind_assoc' p f g)

def call (c : Call) : Program c.Answer := ask c done

def eval (answer : (c : Call) → c.Answer) : Program α → α
  | done a => a
  | ask c next => (next (answer c)).eval answer

/-- Questions asked when every question has a fixed answer, in order. -/
def asked (answer : (c : Call) → c.Answer) : Program α → List Call
  | done _ => []
  | ask c next => c :: (next (answer c)).asked answer

/-- Runs against a host whose answers may depend on what came before. -/
def runWith {m : Type → Type} [Monad m] (answer : (c : Call) → m c.Answer) : Program α → m α
  | done a => pure a
  | ask c next => do (next (← answer c)).runWith answer

@[simp] theorem eval_bind (answer : (c : Call) → c.Answer) (p : Program α) (f : α → Program β) :
    (p >>= f).eval answer = (f (p.eval answer)).eval answer := by
  induction p with
  | done a => rfl
  | ask c next ih => simp only [bind_ask, eval, ih]

@[simp] theorem asked_bind (answer : (c : Call) → c.Answer) (p : Program α) (f : α → Program β) :
    (p >>= f).asked answer = p.asked answer ++ (f (p.eval answer)).asked answer := by
  induction p with
  | done a => rfl
  | ask c next ih => simp only [bind_ask, asked, eval, ih, List.cons_append]

theorem runWith_bind {m : Type → Type} [Monad m] [LawfulMonad m] (answer : (c : Call) → m c.Answer) (p : Program α)
    (f : α → Program β) : (p >>= f).runWith answer = p.runWith answer >>= fun a => (f a).runWith answer := by
  induction p with
  | done a => simp only [bind_done, runWith, pure_bind]
  | ask c next ih => simp only [bind_ask, runWith, ih, bind_assoc]

end Program

abbrev Query (α : Type) := ExceptT Fault Program α

namespace Query

variable {α : Type}

def report (error : Error) : Query α := throw (.report error)

def lift (outcome : Outcome α) : Query α := ExceptT.mk (pure outcome)

/-- The error of a query, without failing; an abort still fails. -/
def attempt (query : Query α) : Query (Except Error α) := ExceptT.mk do
  match ← query.run with
  | .ok a => return .ok (.ok a)
  | .error (.report error) => return .ok (.error error)
  | .error .abort => return .error .abort

def answer? (query : Query α) : Query (Option α) := do return (← query.attempt).toOption

end Query

/-! ### Single questions -/

namespace Ask

def file (c : FileCall) : Program c.Answer := Program.call (.file c)

def posix (c : PosixCall) : Program c.Answer := Program.call (.posix c)

def kstat (c : KstatCall) : Program c.Answer := Program.call (.kstat c)

def sysctl (c : SysctlCall) : Program c.Answer := Program.call (.sysctl c)

def mount (c : MountCall) : Program c.Answer := Program.call (.mount c)

def swap (c : SwapCall) : Program c.Answer := Program.call (.swap c)

def mach (c : MachCall) : Program c.Answer := Program.call (.mach c)

def team (c : TeamCall) : Program c.Answer := Program.call (.team c)

def windows (c : WindowsCall) : Program c.Answer := Program.call (.windows c)

def readText (path : String) : Program (Except IoError Text) := do
  match ← file (.read path) with
  | .error cause => return .error cause
  | .ok bytes =>
    match Utf8.decode? bytes with
    | some text => return .ok text
    | none => return .error (.custom .invalidData "stream did not contain valid UTF-8")

def fileExists (path : String) : Program Bool := do return (← file (.info path)).isOk

end Ask
end HostProbe
