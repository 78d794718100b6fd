import Mathlib.Data.List.Basic
import Whereabouts.Proofs.JsonGrammar

/-!
# Readers of the smallest texts

What the grammar calls blanks, a string or a numeral, the readers pass over or read to its end and
no further. A numeral ends where the next character cannot belong to it, which is so in front of
all that may follow a value.
-/

namespace Whereabouts.Json

/-! Blanks. -/

end Whereabouts.Json
