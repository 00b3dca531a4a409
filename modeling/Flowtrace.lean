import Flowtrace.About
import Flowtrace.Graph.Lint
import Flowtrace.Orders
import Flowtrace.Pool
import Flowtrace.Proofs.Journey
import Flowtrace.Proofs.Routing
import Flowtrace.Proofs.Turns
import Flowtrace.Script.Interpret
import Flowtrace.Workbench
import Flowtrace.Proofs.TracePath
import Flowtrace.Proofs.Threading
import Flowtrace.Proofs.FailureRouting
import Flowtrace.Proofs.PartialRuns
import Flowtrace.Proofs.Announcements
import Flowtrace.Proofs.EventProtocol
import Flowtrace.Proofs.Isolation
import Flowtrace.Proofs.RaisingBus
import Flowtrace.Proofs.Reachability
import Flowtrace.Proofs.LintSoundness
import Flowtrace.Proofs.Flattening
import Flowtrace.Proofs.Pruning
import Flowtrace.Proofs.Extension
import Flowtrace.Proofs.FurtherCatches
import Flowtrace.Proofs.Proceeding
import Flowtrace.Proofs.Termination
import Flowtrace.Proofs.Twins
import Flowtrace.Proofs.Settling
import Flowtrace.Proofs.Resumption
import Flowtrace.Proofs.Deadlines
import Flowtrace.Proofs.EqualGraphs
import Flowtrace.Proofs.Documents
import Flowtrace.Proofs.RunEndpoint
import Flowtrace.Proofs.Views
import Flowtrace.Proofs.Registrations
import Flowtrace.Proofs.PatternLanguage
import Flowtrace.Proofs.WellFormedness
import Flowtrace.Proofs.Preorder
import Flowtrace.Proofs.UniqueNames
import Flowtrace.Proofs.OwnDescriptions
import Flowtrace.Proofs.Highlighting
import Flowtrace.Proofs.ExportedGraph
import Flowtrace.Proofs.Collected
import Flowtrace.Proofs.PrintedDocuments
import Flowtrace.Proofs.Addresses
import Flowtrace.Proofs.ErrorReports
import Flowtrace.Proofs.JsonForms
import Flowtrace.Proofs.NodeIdentifiers
import Flowtrace.Proofs.BuilderCalls
import Flowtrace.Proofs.FirstDefinitions
