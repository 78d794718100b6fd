import Whereabouts.Atlas
import Whereabouts.Layout.Reader
import Whereabouts.Zone.Region.Members
import Whereabouts.Proofs.Identity
import Whereabouts.Proofs.Ticks
import Whereabouts.Proofs.Sight
import Whereabouts.Proofs.Relocation
import Whereabouts.Proofs.Residence
import Whereabouts.Proofs.Proximity
import Whereabouts.Proofs.Coverage
import Whereabouts.Proofs.IdLedger
import Whereabouts.Proofs.Undo
import Whereabouts.Proofs.Refusals
import Whereabouts.Proofs.Safeguards
import Whereabouts.Proofs.Census
import Whereabouts.Proofs.Bounds
import Whereabouts.Proofs.Remnants
import Whereabouts.Proofs.Veil
import Whereabouts.Proofs.ZoneBags
import Whereabouts.Proofs.IdPeaks
import Whereabouts.Proofs.Clearing
import Whereabouts.Proofs.Filling
import Whereabouts.Proofs.IdRows
import Whereabouts.Proofs.Itineraries
import Whereabouts.Proofs.Tilings
import Whereabouts.Proofs.FarEdges
import Whereabouts.Proofs.TileSizes
import Whereabouts.Proofs.RegionSets
import Whereabouts.Proofs.ZonePlaces
import Whereabouts.Proofs.JsonLexemes
import Whereabouts.Proofs.JsonSkipping
import Whereabouts.Proofs.LayoutTexts
