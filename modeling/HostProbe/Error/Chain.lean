/-! Errors with the contexts they passed through on their way out. -/
namespace HostProbe

structure ErrorChain where
  cause : String
  contexts : List String := []
  deriving Repr, DecidableEq, Inhabited

namespace ErrorChain

def inContext (e : ErrorChain) (context : String) : ErrorChain := { e with contexts := e.contexts ++ [context] }

def texts (e : ErrorChain) : List String := e.contexts.reverse ++ [e.cause]

def message (e : ErrorChain) : String := e.contexts.getLast?.getD e.cause

def render (e : ErrorChain) : String := String.intercalate ": " e.texts

end ErrorChain
end HostProbe
