import Stencil.Main
import Stencil.Provider.Scripted
import Stencil.Proofs.Template.Closing
import Stencil.Proofs.Template.First
import Stencil.Proofs.Template.Grammar
import Stencil.Proofs.Template.Agreement
import Stencil.Proofs.Document.Exclusive
import Stencil.Proofs.Resolve.Isolation
import Stencil.Proofs.Template.Acceptance
import Stencil.Proofs.Template.Scan
import Stencil.Proofs.Template.Plain
import Stencil.Proofs.Filter.Quoting
import Stencil.Proofs.Template.Literal
import Stencil.Proofs.Resolve.Quoting
import Stencil.Proofs.Template.Filling
import Stencil.Proofs.Document.Whole
import Stencil.Proofs.Resolve.Embedding
import Stencil.Proofs.Provider.Patterns
import Stencil.Proofs.Template.Locality
import Stencil.Proofs.CommandLine.Checking
import Stencil.Proofs.Template.Words
import Stencil.Proofs.Template.Lossless
import Stencil.Proofs.Resolve.Discovering
import Stencil.Proofs.Document.Numbers
import Stencil.Proofs.Files.Created
import Stencil.Proofs.Document.Above
import Stencil.Proofs.Document.Increasing
import Stencil.Proofs.Provider.Loading
import Stencil.Proofs.Resolve.Textual
import Stencil.Proofs.Provider.Walk
import Stencil.Proofs.CommandLine.Overriding
import Stencil.Proofs.Filter.Unquoting
import Stencil.Proofs.Resolve.Marker
import Stencil.Proofs.Template.Diagnostics
import Stencil.Proofs.Document.Claiming
import Stencil.Proofs.Template.Safety
