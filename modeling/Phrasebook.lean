import Phrasebook.Text.Quoted
import Phrasebook.Text.Fold
import Phrasebook.Extraction
import Phrasebook.Real64.Text
import Phrasebook.Numeral
import Phrasebook.Value.Written
import Phrasebook.Value.Convert
import Phrasebook.Slot.Declaration
import Phrasebook.Intent.Declaration
import Phrasebook.JsonText.Writer
import Phrasebook.Application
import Phrasebook.Main
import Phrasebook.Proofs.Template.Cut
import Phrasebook.Proofs.Template.Search
import Phrasebook.Proofs.Template.Matching
import Phrasebook.Proofs.Template.Grammar
import Phrasebook.Proofs.Text.Letters
import Phrasebook.Proofs.Template.Spacing
import Phrasebook.Proofs.OrderedMap
import Phrasebook.Proofs.Template.Placement
import Phrasebook.Proofs.Template.Rendering
import Phrasebook.Proofs.Extraction
import Phrasebook.Proofs.Catalog.Rebuild
import Phrasebook.Proofs.Detection.Hybrid
import Phrasebook.Proofs.Intent.Faults
import Phrasebook.Proofs.Catalog.Failure
import Phrasebook.Proofs.Classifier.Sound
import Phrasebook.Proofs.Detection.Certain
import Phrasebook.Proofs.Detection.Coherence
import Phrasebook.Proofs.Intent.Reread
import Phrasebook.Proofs.Catalog.Revision
import Phrasebook.Proofs.Slot.Usable
import Phrasebook.Proofs.Ranking.Loose
import Phrasebook.Proofs.Detection.Selection
import Phrasebook.Proofs.Detection.Serving
import Phrasebook.Proofs.Detection.Conservative
import Phrasebook.Proofs.Detection.Builtin
import Phrasebook.Proofs.Service.Mutation
import Phrasebook.Proofs.Detection.Answers
import Phrasebook.Proofs.Detection.Restyled
import Phrasebook.Proofs.Calendar.Canonical
import Phrasebook.Proofs.Slot.Dates
import Phrasebook.Proofs.Slot.Stable
import Phrasebook.Proofs.Delivery
import Phrasebook.Proofs.Slot.Nested
import Phrasebook.Proofs.Ranking.Positions
import Phrasebook.Proofs.Ranking.Wider
import Phrasebook.Proofs.Detection.Ranked
import Phrasebook.Proofs.Classifier.Prose
import Phrasebook.Proofs.Detection.Comparison
import Phrasebook.Proofs.Service.Managing
import Phrasebook.Proofs.Configuration.Loading
import Phrasebook.Proofs.Text.Tokens
import Phrasebook.Proofs.Template.Padding
