import WorkflowGraph.Json.Display
import WorkflowGraph.Json.Indented
import WorkflowGraph.Json.Reader
import WorkflowGraph.Json.Writer
import WorkflowGraph.Schema
import WorkflowGraph.Log
import WorkflowGraph.Table
import WorkflowGraph.Kind
import WorkflowGraph.Report
import WorkflowGraph.Timestamp.Duration
import WorkflowGraph.Timestamp.Iso
import WorkflowGraph.Timestamp.Stored
import WorkflowGraph.Settings
import WorkflowGraph.Config.Node
import WorkflowGraph.Config.Edge
import WorkflowGraph.Port.Basic
import WorkflowGraph.Port.Listing
import WorkflowGraph.Port.Defaults
import WorkflowGraph.Node.Reader
import WorkflowGraph.Edge.Reader
import WorkflowGraph.Workflow.Edit
import WorkflowGraph.Workflow.Check
import WorkflowGraph.Workflow.Reader
import WorkflowGraph.Spec.OfWorkflow
import WorkflowGraph.Spec.ToWorkflow
import WorkflowGraph.Spec.Writer
import WorkflowGraph.Workflow.Difference
import WorkflowGraph.Document.Reader
import WorkflowGraph.Document.Writer
import WorkflowGraph.Builder
import WorkflowGraph.CommandLine.Run
import WorkflowGraph.Sample
import WorkflowGraph.Main
import WorkflowGraph.Proofs.Table
import WorkflowGraph.Proofs.Json
import WorkflowGraph.Proofs.Reference.Resolve
import WorkflowGraph.Proofs.Reference.SameOutputs
import WorkflowGraph.Proofs.List
import WorkflowGraph.Proofs.Port
import WorkflowGraph.Proofs.Spec.Document
import WorkflowGraph.Proofs.Config
import WorkflowGraph.Proofs.Reading
import WorkflowGraph.Proofs.Spec.Compile
import WorkflowGraph.Proofs.Spec.RestoredNode
import WorkflowGraph.Proofs.Spec.Groups
import WorkflowGraph.Proofs.Spec.RestoredEdges
import WorkflowGraph.Proofs.Spec.RestoredWorkflow
import WorkflowGraph.Proofs.Spec.Regrouping
import WorkflowGraph.Proofs.Spec.Regular
import WorkflowGraph.Proofs.Spec.Writable
import WorkflowGraph.Proofs.Check
import WorkflowGraph.Proofs.RoundTrip
import WorkflowGraph.Proofs.Lossless
import WorkflowGraph.Proofs.Difference
import WorkflowGraph.Proofs.Canonical
import WorkflowGraph.Proofs.Partition
import WorkflowGraph.Proofs.ControlFlow
import WorkflowGraph.Proofs.Closed
import WorkflowGraph.Proofs.StartGroup
import WorkflowGraph.Proofs.Import
import WorkflowGraph.Proofs.Renaming
import WorkflowGraph.Proofs.RenamingBack
import WorkflowGraph.Proofs.Update
import WorkflowGraph.Proofs.Edit
import WorkflowGraph.Proofs.Soundness
import WorkflowGraph.Proofs.Reference.Repeated
import WorkflowGraph.Proofs.Resolution
import WorkflowGraph.Proofs.Reference.Written
import WorkflowGraph.Proofs.Place
import WorkflowGraph.Proofs.Document
import WorkflowGraph.Proofs.Totality
import WorkflowGraph.Proofs.Description
import WorkflowGraph.Proofs.Stored
import WorkflowGraph.Proofs.Numbering
import WorkflowGraph.Proofs.Construction
import WorkflowGraph.Proofs.Condition
import WorkflowGraph.Proofs.Outcome
import WorkflowGraph.Proofs.Document.Form
import WorkflowGraph.Proofs.Loading
import WorkflowGraph.Proofs.EdgeIds
import WorkflowGraph.Proofs.Entry
import WorkflowGraph.Proofs.Factory
import WorkflowGraph.Proofs.Configured
import WorkflowGraph.Proofs.Spec.Accepted
import WorkflowGraph.Proofs.Conveyed
import WorkflowGraph.Proofs.Equivalence
import WorkflowGraph.Proofs.Regular
