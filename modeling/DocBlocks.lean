import DocBlocks.Files.Tree
import DocBlocks.Main
import DocBlocks.Sink
import DocBlocks.Proofs.Decomposition
import DocBlocks.Proofs.Repair
import DocBlocks.Proofs.LongValue
import DocBlocks.Proofs.Embedding
import DocBlocks.Proofs.EntryWriting
import DocBlocks.Proofs.Concatenation
import DocBlocks.Proofs.Accounting
import DocBlocks.Proofs.FirstMalformed
import DocBlocks.Proofs.RunEffects
import DocBlocks.Proofs.Shapes
import DocBlocks.Proofs.CutOff
import DocBlocks.Proofs.Placement
import DocBlocks.Proofs.Rearranging
import DocBlocks.Proofs.OneLine
import DocBlocks.Proofs.Unambiguous
import DocBlocks.Proofs.Continuations
import DocBlocks.Proofs.LineEndings
import DocBlocks.Proofs.MarkerSearch
import DocBlocks.Proofs.IndexAndBody
import DocBlocks.Proofs.Anchors
import DocBlocks.Proofs.SinkCalls
import DocBlocks.Proofs.OpenLiteral
import DocBlocks.Proofs.Assignments
import DocBlocks.Proofs.CommandLines
