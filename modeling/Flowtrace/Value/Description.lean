import Flowtrace.Pattern
import Flowtrace.Value.Text

/-! How a failure is described to catch patterns: a fault by its message and by its message
behind its class, anything else by its text. -/

namespace Flowtrace

namespace Fault

/-- The message behind the class, or the class alone if the message is empty. -/
def qualified (fault : Fault) : String :=
  if fault.message = "" then fault.className else fault.className ++ ": " ++ fault.message

end Fault

namespace Value

/-- The most specific description comes first. -/
def descriptions (error : Value) : List String :=
  match error.toFault? with
  | some raised => [raised.message, raised.qualified]
  | none => [error.plain]

def isCaughtBy (error : Value) (pattern : String) : Bool :=
  error.descriptions.any (matchesText pattern)

end Value

end Flowtrace
