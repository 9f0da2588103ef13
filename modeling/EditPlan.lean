import EditPlan.Journal.Console
import EditPlan.Json.Text
import EditPlan.Number.Exact
import EditPlan.Plan.Document
import EditPlan.Plan.Planner
import EditPlan.Run.Execution
import EditPlan.Client.Exchange
import EditPlan.Proofs.Number.Exact
import EditPlan.Proofs.Number.Line
import EditPlan.Proofs.Binary64.Rounding
import EditPlan.Proofs.Binary64.Bounds
import EditPlan.Proofs.Binary64.Characters
import EditPlan.Proofs.Binary64.Sign
import EditPlan.Proofs.Binary64.Literal
import EditPlan.Proofs.Binary64.Clock
import EditPlan.Proofs.Binary64.SixPlaces
import EditPlan.Proofs.Shell.Words
import EditPlan.Proofs.Filter.Unescape
import EditPlan.Proofs.Filter.Pads
import EditPlan.Proofs.Filter.Reader
import EditPlan.Proofs.Filter.Cut
import EditPlan.Proofs.Filter.Expression
import EditPlan.Proofs.Filter.Frames
import EditPlan.Proofs.Filter.Colour
import EditPlan.Proofs.Footage.Windows
import EditPlan.Proofs.Footage.Cover
import EditPlan.Proofs.Footage.Complement
import EditPlan.Proofs.Footage.Inside
import EditPlan.Proofs.Wire.Reading
import EditPlan.Proofs.Command.Limit
import EditPlan.Proofs.Command.Document
import EditPlan.Proofs.Command.Short
import EditPlan.Proofs.Command.Inverse
import EditPlan.Proofs.Command.Range
import EditPlan.Proofs.Command.Passes
import EditPlan.Proofs.Command.Items
import EditPlan.Proofs.Json.Reader
import EditPlan.Proofs.Plan.Operations
import EditPlan.Proofs.Plan.Steps
import EditPlan.Proofs.Plan.Timeline
import EditPlan.Proofs.Plan.Faults
import EditPlan.Proofs.Plan.Chain
import EditPlan.Proofs.Plan.Outputs
import EditPlan.Proofs.Plan.Sound
import EditPlan.Proofs.Plan.Session
import EditPlan.Proofs.Plan.Prefix
import EditPlan.Proofs.Plan.Neutral
import EditPlan.Proofs.Plan.Recognition
import EditPlan.Proofs.Plan.Duration
import EditPlan.Proofs.Plan.Speed
import EditPlan.Proofs.Plan.Spread
import EditPlan.Proofs.Plan.Thumbnails
import EditPlan.Proofs.Plan.Streams
import EditPlan.Proofs.Run.Execution
import EditPlan.Proofs.Prompt.Reading
import EditPlan.Proofs.Service.Answers
import EditPlan.Proofs.Service.Decision
import EditPlan.Proofs.Service.Reproduction
