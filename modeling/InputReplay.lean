import InputReplay.Config.Filter
import InputReplay.Config.Load
import InputReplay.Event.Document
import InputReplay.Event.Text
import InputReplay.Host.Run
import InputReplay.Native.Codec
import InputReplay.Posting
import InputReplay.Recording
import InputReplay.Json.Read
import InputReplay.Proofs.Resolved
import InputReplay.Proofs.Posted
import InputReplay.Proofs.Turns
import InputReplay.Proofs.Delivery
import InputReplay.Proofs.Balance
import InputReplay.Proofs.Books
import InputReplay.Proofs.Submissions
import InputReplay.Proofs.Records
import InputReplay.Proofs.Toml.Plain
import InputReplay.Proofs.Entries
import InputReplay.Proofs.Toml.Document
import InputReplay.Proofs.Decode
import InputReplay.Proofs.Replay
import InputReplay.Proofs.Shapes
import InputReplay.Proofs.RecordFormat
import InputReplay.Proofs.Crew
import InputReplay.Proofs.Producers
import InputReplay.Proofs.Consultations
import InputReplay.Proofs.Silence
import InputReplay.Proofs.Paths
import InputReplay.Proofs.Pointer
import InputReplay.Proofs.WellFormed
import InputReplay.Proofs.Configuration
import InputReplay.Proofs.Alternatives
import InputReplay.Proofs.Layout
import InputReplay.Proofs.Verdict
import InputReplay.Proofs.Mirror
import InputReplay.Proofs.Distinct
import InputReplay.Proofs.Acts
import InputReplay.Proofs.Distance
import InputReplay.Proofs.Pixels
import InputReplay.Proofs.Wide
import InputReplay.Proofs.Reach
import InputReplay.Proofs.Order
import InputReplay.Proofs.Scaling
import InputReplay.Proofs.Flags
import InputReplay.Proofs.Toml.NoNull
import InputReplay.Proofs.Sections
