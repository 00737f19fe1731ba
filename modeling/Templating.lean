import Templating.Configuration.Reading
import Templating.Configuration.Writing
import Templating.Json.Reader
import Templating.Json.Writer
import Templating.Processor
import Templating.Proofs.Appending
import Templating.Proofs.Assembly
import Templating.Proofs.ByteOrderMark
import Templating.Proofs.Coercions
import Templating.Proofs.Comparison
import Templating.Proofs.Composition
import Templating.Proofs.Deletion
import Templating.Proofs.EncodedText
import Templating.Proofs.Exhaustion
import Templating.Proofs.Invariance
import Templating.Proofs.Meaning
import Templating.Proofs.Numerals
import Templating.Proofs.Parsing
import Templating.Proofs.Passthrough
import Templating.Proofs.Placeholders
import Templating.Proofs.Regions
import Templating.Proofs.Rejection
import Templating.Proofs.Reordering
import Templating.Proofs.Rewriting
import Templating.Proofs.Safety
import Templating.Proofs.Strictness
import Templating.Proofs.Stripping
import Templating.Proofs.Transparency
import Templating.Proofs.Trimming
import Templating.Proofs.WholeLines
import Templating.Proofs.WholeWords
import Templating.Target.Positioned
