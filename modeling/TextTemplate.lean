import TextTemplate.Main
import TextTemplate.Value.Inspection
import TextTemplate.Proofs.Escaping
import TextTemplate.Proofs.Forest.Refinement
import TextTemplate.Proofs.Forest.Resolved
import TextTemplate.Proofs.Leftover
import TextTemplate.Proofs.Precedence
import TextTemplate.Proofs.Session
import TextTemplate.Proofs.Truthless
import TextTemplate.Proofs.Padding
import TextTemplate.Proofs.Unmentioned
import TextTemplate.Proofs.Constant
import TextTemplate.Proofs.Discovery
import TextTemplate.Proofs.Lines
import TextTemplate.Proofs.Passes
import TextTemplate.Proofs.CommandRun
import TextTemplate.Proofs.Simultaneous
import TextTemplate.Proofs.Overlap
import TextTemplate.Proofs.Filling
import TextTemplate.Proofs.Kept
import TextTemplate.Proofs.Spelling
import TextTemplate.Proofs.Entities
import TextTemplate.Proofs.Acceptance
import TextTemplate.Proofs.Arguments
import TextTemplate.Proofs.Conversion
