import FlowchartSync.Main
import FlowchartSync.Session.Run
import FlowchartSync.Workbench.Run
import FlowchartSync.Proofs.Label.Escape
import FlowchartSync.Proofs.Label.Codes
import FlowchartSync.Proofs.Statement.Bracket
import FlowchartSync.Proofs.Statement.References
import FlowchartSync.Proofs.Statement.CodeLine
import FlowchartSync.Proofs.Statement.Grammar
import FlowchartSync.Proofs.Statement.Grouping
import FlowchartSync.Proofs.Diagram.CodeText
import FlowchartSync.Proofs.Diagram.Sketch
import FlowchartSync.Proofs.Diagram.RoundTrip
import FlowchartSync.Proofs.Diagram.Canonical
import FlowchartSync.Proofs.Diagram.Subgraphs
import FlowchartSync.Proofs.Diagram.Mentions
import FlowchartSync.Proofs.Diagram.Chains
import FlowchartSync.Proofs.Diagram.Formatting
import FlowchartSync.Proofs.Diagram.Nesting
import FlowchartSync.Proofs.Diagram.EdgeLabels
import FlowchartSync.Proofs.Diagram.Declarations
import FlowchartSync.Proofs.Fence.Unwrapping
import FlowchartSync.Proofs.Session.EdgeKeys
import FlowchartSync.Proofs.Session.WellFormed
import FlowchartSync.Proofs.Session.Representation
import FlowchartSync.Proofs.Session.Edits
import FlowchartSync.Proofs.Session.Scope
import FlowchartSync.Proofs.Session.Window
import FlowchartSync.Proofs.Session.Agreement
import FlowchartSync.Proofs.Session.Echo
import FlowchartSync.Proofs.Session.Positions
import FlowchartSync.Proofs.Session.HiddenLayout
import FlowchartSync.Proofs.Session.Updates
import FlowchartSync.Proofs.Workbench.Operations
import FlowchartSync.Proofs.Workbench.Waiting
import FlowchartSync.Proofs.Workbench.Agreement
import FlowchartSync.Proofs.Workbench.Newest
import FlowchartSync.Proofs.Workbench.Drafts
import FlowchartSync.Proofs.Workbench.Ticks
import FlowchartSync.Proofs.Workbench.Bursts
import FlowchartSync.Proofs.Text.Cutting
import FlowchartSync.Proofs.Summary.Rows
import FlowchartSync.Proofs.Transfer.Exports
