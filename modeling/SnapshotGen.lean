import SnapshotGen.Main
import SnapshotGen.Proofs.AttributeText
import SnapshotGen.Proofs.Batch.Repeated
import SnapshotGen.Proofs.BoundNames
import SnapshotGen.Proofs.Building.Remarks
import SnapshotGen.Proofs.Building.Untyped
import SnapshotGen.Proofs.Catalog.OwnNames
import SnapshotGen.Proofs.Catalog.Unrelated
import SnapshotGen.Proofs.CommandLine.Exit
import SnapshotGen.Proofs.ComponentFiles.Selected
import SnapshotGen.Proofs.ComponentName
import SnapshotGen.Proofs.Extraction.Chains
import SnapshotGen.Proofs.Extraction.Described
import SnapshotGen.Proofs.Extraction.Hoisting
import SnapshotGen.Proofs.Extraction.NamedDefaults
import SnapshotGen.Proofs.Extraction.PropLayout
import SnapshotGen.Proofs.Extraction.Required
import SnapshotGen.Proofs.Extraction.StaticMembers
import SnapshotGen.Proofs.Literal.RoundTrip
import SnapshotGen.Proofs.PropNames
import SnapshotGen.Proofs.Settings.Extensions
import SnapshotGen.Proofs.Settings.Precedence
import SnapshotGen.Proofs.Synthesis.Shapes
import SnapshotGen.Proofs.Template.Builtin
import SnapshotGen.Proofs.Batch.Imports
import SnapshotGen.Proofs.Extraction.Namesakes
import SnapshotGen.Proofs.ComponentFiles.Dialects
import SnapshotGen.Proofs.Filter.Exchange
import SnapshotGen.Proofs.Formatting
import SnapshotGen.Proofs.TestNames.Grammar
import SnapshotGen.Proofs.TestNames.Places
