import RdfTemplates.Context.Summary
import RdfTemplates.Json.Decode
import RdfTemplates.Json.Encode
import RdfTemplates.Json.Printer
import RdfTemplates.Json.Reader
import RdfTemplates.Library.Validation
import RdfTemplates.Mapping
import RdfTemplates.Relabelling
import RdfTemplates.Proofs.Agreement
import RdfTemplates.Proofs.Direct.RowScopes
import RdfTemplates.Proofs.Direct.Refinement
import RdfTemplates.Proofs.Labels.Terms
import RdfTemplates.Proofs.Labels.Calls
import RdfTemplates.Proofs.Labels.Runs
import RdfTemplates.Proofs.Labels.Renaming
import RdfTemplates.Proofs.Labels.RenamedRuns
import RdfTemplates.Proofs.Labels.Allocation
import RdfTemplates.Proofs.Scopes.LiveHandles
import RdfTemplates.Proofs.Mapping.Independence
import RdfTemplates.Proofs.Mapping.Delivery
import RdfTemplates.Proofs.CycleTest.Exhaustion
import RdfTemplates.Proofs.CycleTest.Outcomes
import RdfTemplates.Proofs.Output.RdfTriples
import RdfTemplates.Proofs.Validation.Foresight
import RdfTemplates.Proofs.Watched.Declarations
import RdfTemplates.Proofs.Watched.Groundness
import RdfTemplates.Proofs.Restoration.Steps
import RdfTemplates.Proofs.Restoration.FailingRows
import RdfTemplates.Proofs.Restoration.Roots
import RdfTemplates.Proofs.TripleInstances
import RdfTemplates.Proofs.Calls.Failures
import RdfTemplates.Proofs.Calls.Paths
import RdfTemplates.Proofs.Origins.Runs
import RdfTemplates.Proofs.Mapping.Origins
import RdfTemplates.Proofs.Course
import RdfTemplates.Proofs.Direct.Walk
import RdfTemplates.Proofs.Calls.Nonrecursive
import RdfTemplates.Proofs.Calls.Reached
import RdfTemplates.Proofs.Leniency
import RdfTemplates.Proofs.Json.RoundTrip
import RdfTemplates.Proofs.ArgumentBinding
import RdfTemplates.Proofs.Output.Collections
import RdfTemplates.Proofs.RowProduct
import RdfTemplates.Proofs.Library.Editing
import RdfTemplates.Proofs.Library.History
import RdfTemplates.Proofs.Direct.Evaluation
import RdfTemplates.Proofs.InlineInstances
import RdfTemplates.Proofs.Scopes.Resolution
import RdfTemplates.Proofs.QuotedText
