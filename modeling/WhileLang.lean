import WhileLang.Main
import WhileLang.Session
import WhileLang.Proofs.Frame
import WhileLang.Proofs.Soundness
import WhileLang.Proofs.Scoping
import WhileLang.Proofs.Readability
import WhileLang.Proofs.Transparency
import WhileLang.Proofs.Relevance
import WhileLang.Proofs.Modes
import WhileLang.Proofs.Diagnosis
import WhileLang.Proofs.Inference
import WhileLang.Proofs.Sessions
import WhileLang.Proofs.Recording
import WhileLang.Proofs.Streaming
import WhileLang.Proofs.Rejection
import WhileLang.Proofs.Propagation
import WhileLang.Proofs.Unrolling
import WhileLang.Proofs.Faults
import WhileLang.Proofs.Influence
import WhileLang.Proofs.Counting
import WhileLang.Proofs.Steps
import WhileLang.Proofs.Conflicts
import WhileLang.Proofs.Strictness
import WhileLang.Proofs.Wrapping
import WhileLang.Proofs.Lines
import WhileLang.Proofs.Merging
import WhileLang.Proofs.Messages
import WhileLang.Proofs.Excerpts
import WhileLang.Proofs.Exhibits
