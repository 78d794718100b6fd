/-!
# Faults of a JSON text

A text is read from the front, and the first fault met is the one reported.
-/

namespace Whereabouts.Json

inductive Fault where
  /-- The text ends before the value is complete. -/
  | ended
  /-- The text is no JSON. -/
  | malformed
  /-- The text is JSON so far, but not of the value asked for. -/
  | mismatch
deriving DecidableEq

def Fault.text : Fault → String
  | ended => "eof"
  | malformed => "syntax"
  | mismatch => "data"

end Whereabouts.Json
