import Uncomment.Main
import Uncomment.Scan.Walk
import Uncomment.ScalarType
import Uncomment.Proofs.Convert.Counters
import Uncomment.Proofs.Convert.Idempotence
import Uncomment.Proofs.Scan.Automaton
import Uncomment.Proofs.Scan.Partition
import Uncomment.Proofs.Scan.Seam
import Uncomment.Proofs.Scan.Substitution
import Uncomment.Proofs.Convert.Concatenation
import Uncomment.Proofs.Convert.Normalization
import Uncomment.Proofs.Convert.PairedLine
import Uncomment.Proofs.Text.Latin1
import Uncomment.Proofs.Convert.Encoding
import Uncomment.Proofs.Scan.Offset
import Uncomment.Proofs.Convert.Ledger
import Uncomment.Proofs.Strip.Literals
import Uncomment.Proofs.Convert.WellFormed
import Uncomment.Proofs.Scan.Walk
import Uncomment.Proofs.Text.Utf8
import Uncomment.Proofs.Command.Outcome
import Uncomment.Proofs.Scan.Parity
import Uncomment.Proofs.Strip.Opener
import Uncomment.Proofs.File.TextFile
import Uncomment.Proofs.Text.Lossless
import Uncomment.Proofs.Command.Grammar
import Uncomment.Proofs.Command.Acceptance
import Uncomment.Proofs.Pattern.Search
