import Whereabouts.Layout.Reader
import Whereabouts.Proofs.JsonSkipping
import Whereabouts.Proofs.LayoutMembers

/-!
# What the reader of layouts reads

`readText` goes through the members of an object once and keeps a draft of what it has seen. The
draft says about each field what the members so far say, and as soon as they say nothing consistent
the text is turned away. So what is read is the layout that the members describe.
-/

namespace Whereabouts.Layout

open Json

/-- The draft holds what the members give. -/
def Draft.Records (d : Draft) (ms : List Member) : Prop :=
  ∀ f : Field, Given ms f.name (d.get? f)

/-- A reader of members ends with the layout of a draft that holds them, or fails and no draft can
hold them. -/
def Reads (ms : List Member) (rest : List Char) (r : Except Fault (Layout × List Char)) : Prop :=
  (∃ d : Draft, d.Records ms ∧ r = d.layout.map (·, rest)) ∨
    ((∃ e, r = .error e) ∧ ¬∃ d : Draft, d.Records ms)

end Whereabouts.Layout
