import Directives.Edit
import Directives.Inspect
import Directives.Main
import Directives.Scripted
import Directives.Proofs.Extent
import Directives.Proofs.Rereading
import Directives.Proofs.Document
import Directives.Proofs.ClosingName
import Directives.Proofs.Coverage
import Directives.Proofs.Chain
import Directives.Proofs.Composition
import Directives.Proofs.Override
import Directives.Proofs.FirstToken
import Directives.Proofs.Editing
import Directives.Proofs.Placement
import Directives.Proofs.Stripping
import Directives.Proofs.Running
import Directives.Proofs.Rebuilding
import Directives.Proofs.Consistency
import Directives.Proofs.Content
import Directives.Proofs.Clearing
import Directives.Proofs.Binding
import Directives.Proofs.Interchange
import Directives.Proofs.Configured
import Directives.Proofs.Aliases
import Directives.Proofs.Geometry
import Directives.Proofs.Loading
import Directives.Proofs.Normalization
import Directives.Proofs.Grammar.Whole
import Directives.Proofs.Dollars
import Directives.Proofs.Expansion
import Directives.Proofs.Descent
