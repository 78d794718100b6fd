import Mathlib.Data.List.DropRight
import Whereabouts.Json.Skip
import Whereabouts.Proofs.JsonLexemes

/-!
# Values are passed over whole

`skipValue` keeps the arrays and objects it is inside of on a stack of its own, while the grammar of
values is a tree. What ties them is that passing over a phrase of the grammar, from the place where
it begins, leaves the stack as it was and the text that stands behind the phrase.
-/

namespace Whereabouts.Json

/-! Single steps. -/

end Whereabouts.Json
