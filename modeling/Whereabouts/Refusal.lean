import Whereabouts.Json.Fault
import Whereabouts.Layout
import Whereabouts.Thing
import Whereabouts.Thing.Handle

/-!
# Refusals

Why a request about maps is turned down, and the wording of it.
-/

namespace Whereabouts

inductive Refusal where
  | idsExhausted (map : MapId)
  | unknownThing (thing : Handle)
  | alreadyOnMap (thing : Handle) (map : MapId)
  | notOnMap (thing : Handle) (map : MapId)
  | mapNotLoaded (map : MapId)
  | mapAlreadyLoaded (map : MapId)
  | invalidLayout (fault : LayoutFault)
  | unreadableLayout (fault : Json.Fault)
deriving DecidableEq

namespace Refusal

def message : Refusal → String
  | idsExhausted map => s!"no public id left on {map.text}"
  | unknownThing thing => s!"unknown thing: {thing.tagged}"
  | alreadyOnMap thing map => s!"{thing.tagged} is already on {map.text}"
  | notOnMap thing map => s!"{thing.tagged} is not on {map.text}"
  | mapNotLoaded map => s!"map not loaded: {map.text}"
  | mapAlreadyLoaded map => s!"map already loaded: {map.text}"
  | invalidLayout fault => s!"invalid map config: {fault.message}"
  | unreadableLayout fault => s!"failed to parse map config: {fault.text}"

end Refusal

end Whereabouts
