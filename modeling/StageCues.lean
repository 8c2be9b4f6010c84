import StageCues.Store.Delivery
import StageCues.Universe
import StageCues.Main
import StageCues.Proofs.Scan.Resume
import StageCues.Proofs.Scan.Stop
import StageCues.Proofs.Text.Capital
import StageCues.Proofs.Text.Likeness
import StageCues.Proofs.Scan.Misreading
import StageCues.Proofs.Forward.Agreement
import StageCues.Proofs.Text.Numeral
import StageCues.Proofs.Built.Frames
import StageCues.Proofs.Written.Reread
import StageCues.Proofs.Built.Received
import StageCues.Proofs.Meaning.Frames
import StageCues.Proofs.Meaning.Heads
import StageCues.Proofs.Built.Elements
import StageCues.Proofs.Scan.Radix
import StageCues.Proofs.Written.Documents
import StageCues.Proofs.Forward.Alike
import StageCues.Proofs.Forward.Recased
import StageCues.Proofs.Forward.Remarks
import StageCues.Proofs.Written.Handmade
import StageCues.Proofs.Written.Trees
import StageCues.Proofs.Store.Calls
import StageCues.Proofs.Store.Children
import StageCues.Proofs.Played.Levels
import StageCues.Proofs.Played.Views
import StageCues.Proofs.Scan.Count
import StageCues.Proofs.Written.Shows
import StageCues.Proofs.Text.Literal
import StageCues.Proofs.Source.LineEnds
import StageCues.Proofs.Store.Drawing
import StageCues.Proofs.Store.Congruence
import StageCues.Proofs.Store.Receipts
import StageCues.Proofs.Store.Closing
import StageCues.Proofs.Store.Links
import StageCues.Proofs.Scan.Awaited
import StageCues.Proofs.Written.Literals
import StageCues.Proofs.Built.Told
