import Wobbly.Main
import Wobbly.Session
import Wobbly.Proofs.Forms
import Wobbly.Proofs.Scanning
import Wobbly.Proofs.Pairs
import Wobbly.Proofs.Run
import Wobbly.Proofs.RoundTrip
import Wobbly.Proofs.Recognition
import Wobbly.Proofs.StrictText
import Wobbly.Proofs.Resynchronization
import Wobbly.Proofs.LongestPrefix
import Wobbly.Proofs.Policies
import Wobbly.Proofs.UnitTexts
import Wobbly.Proofs.Spans
import Wobbly.Proofs.Seams
import Wobbly.Proofs.LossySeams
import Wobbly.Proofs.Cuts
import Wobbly.Proofs.Notices
import Wobbly.Proofs.Iterations
import Wobbly.Proofs.Mending
import Wobbly.Proofs.Groups
import Wobbly.Proofs.Unpaired
import Wobbly.Proofs.Lengths
import Wobbly.Proofs.HexTexts
import Wobbly.Proofs.HexRows
import Wobbly.Proofs.EscapedTexts
import Wobbly.Proofs.Commands
import Wobbly.Proofs.Labels
import Wobbly.Proofs.Sessions
