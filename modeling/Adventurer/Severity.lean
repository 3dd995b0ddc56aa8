/-!
# Severity of failures

How a host should take a failure: try another request, reject the input, or look for the fault in
the data or in itself.
-/

namespace Adventurer

/-- What a failure means for whoever made the request. -/
inductive Severity where
  | recoverable
  | validation
  | internal
  | fatal
  deriving DecidableEq, Repr

namespace Severity

/-- The word for a severity. -/
def word : Severity → String
  | recoverable => "recoverable"
  | validation => "validation"
  | internal => "internal"
  | fatal => "fatal"

/-- Whether another request may succeed. -/
def isRecoverable : Severity → Bool
  | recoverable => true
  | _ => false

/-- Whether the fault lies in the data or the host. -/
def isInternal : Severity → Bool
  | internal | fatal => true
  | _ => false

end Severity

/-- A kind of failures that clients are told of by a code, a message and a severity. -/
class Fault (ε : Type) where
  code : ε → String
  message : ε → String
  severity : ε → Severity

end Adventurer
