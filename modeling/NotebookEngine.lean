import NotebookEngine.Fragment.Program
import NotebookEngine.Main
import NotebookEngine.Programs.Table
import NotebookEngine.Proofs.Backend.Diagnostics
import NotebookEngine.Proofs.Backend.Embedding
import NotebookEngine.Proofs.Backend.Leavings
import NotebookEngine.Proofs.Backend.Outcomes
import NotebookEngine.Proofs.Backend.Progress
import NotebookEngine.Proofs.Backend.Results
import NotebookEngine.Proofs.Backend.Together
import NotebookEngine.Proofs.Backend.Verdicts
import NotebookEngine.Proofs.CommandLine.Configuration
import NotebookEngine.Proofs.CommandLine.Runs
import NotebookEngine.Proofs.Engine.Departure
import NotebookEngine.Proofs.Engine.Results
import NotebookEngine.Proofs.Engine.Staging
import NotebookEngine.Proofs.Fragment.Attributed
import NotebookEngine.Proofs.Fragment.Blocks
import NotebookEngine.Proofs.Fragment.Enclosed
import NotebookEngine.Proofs.Fragment.EntryPoints
import NotebookEngine.Proofs.Fragment.Headers
import NotebookEngine.Proofs.Fragment.Hoisting
import NotebookEngine.Proofs.Fragment.Lines
import NotebookEngine.Proofs.Fragment.Scanning
import NotebookEngine.Proofs.Host.Capture
import NotebookEngine.Proofs.Host.Files
import NotebookEngine.Proofs.Host.Paths
import NotebookEngine.Proofs.Host.Processes
import NotebookEngine.Proofs.Json.Units
import NotebookEngine.Proofs.Result.Reports
import NotebookEngine.Proofs.Result.Wire
import NotebookEngine.Proofs.Script.Comments
import NotebookEngine.Proofs.Script.ImportLines
import NotebookEngine.Proofs.Script.Keywords
import NotebookEngine.Proofs.Script.Modules
import NotebookEngine.Proofs.Script.Reports
import NotebookEngine.Proofs.Session.Backlog
import NotebookEngine.Proofs.Session.Courses
import NotebookEngine.Proofs.Session.Deadlines
import NotebookEngine.Proofs.Session.Departure
import NotebookEngine.Proofs.Session.Framing
import NotebookEngine.Proofs.Session.Generations
import NotebookEngine.Proofs.Session.Noise
import NotebookEngine.Proofs.Session.Placement
import NotebookEngine.Proofs.Session.Rest
import NotebookEngine.Proofs.Session.Results
import NotebookEngine.Proofs.Session.Serial
import NotebookEngine.Report
import NotebookEngine.Session.Message
