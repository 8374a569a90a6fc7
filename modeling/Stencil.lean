import Stencil.Main
import Stencil.Proofs.Survey.Conservation
import Stencil.Proofs.Table
import Stencil.Proofs.Disk.Change
import Stencil.Proofs.Path
import Stencil.Proofs.Walk.Itinerary
import Stencil.Proofs.Disk.LinkFree
import Stencil.Proofs.Walk.Careful
import Stencil.Proofs.Walk.Visits
import Stencil.Proofs.Template
import Stencil.Proofs.Engine.Materialization
import Stencil.Proofs.Engine.Replacement
import Stencil.Proofs.Engine.Confinement
import Stencil.Proofs.Discovery
import Stencil.Proofs.Engine.Analysis
import Stencil.Proofs.Filter
import Stencil.Proofs.Session.Act
import Stencil.Proofs.Engine.Discovered
import Stencil.Proofs.Session.Work
import Stencil.Proofs.Span.Filling
import Stencil.Proofs.Substitution.Settled
import Stencil.Proofs.Text.Case
import Stencil.Proofs.Walk.Calls
import Stencil.Proofs.Walk.Eligible
import Stencil.Proofs.Engine.InPlace
import Stencil.Proofs.Engine.TwoPasses
import Stencil.Proofs.Substitution.Strategies
import Stencil.Proofs.Engine.DryRun
import Stencil.Proofs.Engine.Faults
import Stencil.Proofs.Command.Flag
import Stencil.Proofs.Session.Frame
import Stencil.Proofs.Session.Literal
import Stencil.Proofs.Occurrence.Replacing
import Stencil.Proofs.Text.Decoding
import Stencil.Proofs.Substitution.Validity
import Stencil.Proofs.Span.Leftmost
import Stencil.Proofs.Substitution.LeftToRight
import Stencil.Proofs.Substitution.Lines
import Stencil.Proofs.Disk.Way
import Stencil.Proofs.Disk.Files
import Stencil.Proofs.Disk.Steps
import Stencil.Proofs.Template.Materialize
import Stencil.Proofs.Span.Decomposition
import Stencil.Proofs.Engine.Counting
import Stencil.Proofs.Occurrence.Parting
import Stencil.Proofs.Substitution.KeyByKey
import Stencil.Proofs.Engine.Tightening
import Stencil.Proofs.Walk.Entered
import Stencil.Proofs.Walk.Accounting
import Stencil.Proofs.Placeholder
import Stencil.Proofs.SizeLimit
import Stencil.Proofs.Filter.Verbatim
import Stencil.Proofs.Template.Output
import Stencil.Proofs.Placeholder.Normal
import Stencil.Proofs.Document.Json
import Stencil.Proofs.Diff.Shown
import Stencil.Proofs.Settings.Saved
import Stencil.Proofs.Values
