import ViewTemplate.Render.Inspection
import ViewTemplate.Store.File
import ViewTemplate.Store.Memory
import ViewTemplate.Proofs.Spans
import ViewTemplate.Proofs.Relation
import ViewTemplate.Proofs.Traced
import ViewTemplate.Proofs.Captures
import ViewTemplate.Proofs.Compilation
import ViewTemplate.Proofs.LayoutChain
import ViewTemplate.Proofs.Capturing
import ViewTemplate.Proofs.SectionHistory
import ViewTemplate.Proofs.BlockGrammar
import ViewTemplate.Proofs.PrintedReading
import ViewTemplate.Proofs.Comments
import ViewTemplate.Proofs.Paths
import ViewTemplate.Proofs.FragmentCache
import ViewTemplate.Proofs.ProgramCache
import ViewTemplate.Proofs.ErrorOrigin
import ViewTemplate.Proofs.Verbatim
import ViewTemplate.Proofs.LiteralValues
import ViewTemplate.Proofs.LoweredTags
import ViewTemplate.Proofs.Termination
import ViewTemplate.Proofs.Segmentation
import ViewTemplate.Proofs.Tiling
import ViewTemplate.Proofs.Existence
import ViewTemplate.Proofs.ElementLoops
import ViewTemplate.Proofs.Confinement
import ViewTemplate.Proofs.Sweep
import ViewTemplate.Proofs.MovedParent
import ViewTemplate.Proofs.DepthLimit
import ViewTemplate.Proofs.PlainEvaluation
import ViewTemplate.Proofs.ExactIntegers
import ViewTemplate.Proofs.Conversion
import ViewTemplate.Proofs.Precedence
import ViewTemplate.Proofs.Escaping
import ViewTemplate.Proofs.Equality
import ViewTemplate.Proofs.Excerpts
