import Workflows.Template
import Workflows.Step
import Workflows.Graph.Editor
import Workflows.Graph.Steps
import Workflows.Import.Extract
import Workflows.Import.Export
import Workflows.Run.Report
import Workflows.Run.Script
import Workflows.Provider.Image
import Workflows.Store.Run
import Workflows.Api.Service
import Workflows.Fragment.Run
import Workflows.Proofs.Graph.Visit
import Workflows.Proofs.Graph.Forest
import Workflows.Proofs.Graph.Rearranged
import Workflows.Proofs.Run.Append
import Workflows.Proofs.Run.Ending
import Workflows.Proofs.Run.Held
import Workflows.Proofs.Run.Idle
import Workflows.Proofs.Store.Saved
import Workflows.Proofs.Template.Substitution
import Workflows.Run.Pool
import Workflows.Proofs.Run.Pool
import Workflows.Proofs.Api.Import
import Workflows.Proofs.Api.Running
import Workflows.Proofs.Graph.Reread
import Workflows.Proofs.Graph.Account
import Workflows.Proofs.Store.Reuse
import Workflows.Proofs.Api.Reading
import Workflows.Proofs.Graph.Conversion
import Workflows.Proofs.Import.Resolved
import Workflows.Proofs.Graph.Entries
import Workflows.Proofs.Import.Extract
import Workflows.Proofs.Template.Segments
import Workflows.Proofs.Run.Body
import Workflows.Proofs.Run.Escaped
import Workflows.Proofs.Run.Respelled
import Workflows.Proofs.Import.Placeholder
import Workflows.Proofs.Run.Delay
import Workflows.Proofs.Json.LongRun
import Workflows.Proofs.Store.Rows
import Workflows.Proofs.Run.Headers
import Workflows.Proofs.Run.Seats
import Workflows.Proofs.Number.Finite
