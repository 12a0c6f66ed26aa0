import SentenceGraph.Logging
import SentenceGraph.Main
import SentenceGraph.Phase.Scripted
import SentenceGraph.Proofs.Trimming
import SentenceGraph.Proofs.Planning
import SentenceGraph.Proofs.Running
import SentenceGraph.Proofs.Agreeing
import SentenceGraph.Proofs.Compiling
import SentenceGraph.Proofs.Escaping
import SentenceGraph.Proofs.Histories
import SentenceGraph.Proofs.Serving
import SentenceGraph.Proofs.Reducing
import SentenceGraph.Proofs.Parsing
import SentenceGraph.Proofs.Typing
import SentenceGraph.Proofs.Joining
import SentenceGraph.Proofs.MarkupReading
import SentenceGraph.Proofs.Referring
import SentenceGraph.Proofs.Presenting
import SentenceGraph.Proofs.Scoring
import SentenceGraph.Proofs.Calculating
import SentenceGraph.Proofs.Outlining
import SentenceGraph.Proofs.JsonRendering
import SentenceGraph.Proofs.Accounting
import SentenceGraph.Proofs.Outliving
import SentenceGraph.Proofs.Recognizing
import SentenceGraph.Proofs.Bounding
import SentenceGraph.Proofs.Forgetting
import SentenceGraph.Proofs.Restoring
import SentenceGraph.Proofs.Averaging
import SentenceGraph.Proofs.Processing
import SentenceGraph.Proofs.Replanning
