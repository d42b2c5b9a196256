import CTokens.Main
import CTokens.Text.Alphanumeric
import CTokens.Proofs.Boundaries
import CTokens.Proofs.LineNumbers
import CTokens.Proofs.RoundTrip
import CTokens.Proofs.Termination
import CTokens.Proofs.MaximalMunch
import CTokens.Proofs.WellFormed
import CTokens.Proofs.Concatenation
import CTokens.Proofs.Blanking
import CTokens.Proofs.Unknowns
import CTokens.Proofs.BeyondAscii
import CTokens.Proofs.Histories
import CTokens.Proofs.LineTable
import CTokens.Proofs.Drawing
import CTokens.Proofs.Labels
import CTokens.Proofs.Outcomes
import CTokens.Proofs.Isolation
import CTokens.Proofs.Effects
import CTokens.Proofs.Strictness
import CTokens.Proofs.Snippets
import CTokens.Proofs.Rows
import CTokens.Proofs.Complaints
import CTokens.Proofs.Lookup
import CTokens.Proofs.Decoding
import CTokens.Proofs.Portions
import CTokens.Proofs.Overflow
