import Stencil.Filter.Sample
import Stencil.Main
import Stencil.Scope.Request
import Stencil.Proofs.Grammar.Exactness
import Stencil.Proofs.Statement.Eval
import Stencil.Proofs.Template.Signals
import Stencil.Proofs.Report
import Stencil.Proofs.Token.Rescan
import Stencil.Proofs.Statement.Written
import Stencil.Proofs.Statement.Meaning
import Stencil.Proofs.Template.Writes
import Stencil.Proofs.Template.Acceptance
import Stencil.Proofs.Template.Dependence
import Stencil.Proofs.Template.Confined
import Stencil.Proofs.Template.Counting
import Stencil.Proofs.Template.Renaming
import Stencil.Proofs.Template.Blame
import Stencil.Proofs.Value.Range
import Stencil.Proofs.Report.Excerpt
import Stencil.Proofs.Value.Order
import Stencil.Proofs.Template.Substitution
import Stencil.Proofs.Statement.Alternatives
import Stencil.Proofs.Value.Lookup
import Stencil.Proofs.Loop.Modifiers
import Stencil.Proofs.Loop.Limit
import Stencil.Proofs.Template.WhiteSpace
import Stencil.Proofs.Token.Layout
import Stencil.Proofs.Filter.Invoke
import Stencil.Proofs.Template.Choices
import Stencil.Proofs.Template.Collection
import Stencil.Proofs.Filter.Pieces
import Stencil.Proofs.Filter.Sort
import Stencil.Proofs.Template.Fallback
import Stencil.Proofs.Template.Verbatim
import Stencil.Proofs.Scope.Visibility
import Stencil.Proofs.CommandLine
