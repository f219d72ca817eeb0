import SexprShell.Script.Dialect
import SexprShell.Source.Read
import SexprShell.Proofs.Source.Acceptance
import SexprShell.Proofs.Source.RoundTrip
import SexprShell.Proofs.Source.Concatenation
import SexprShell.Proofs.Source.Origin
import SexprShell.Proofs.Source.SyntaxError
import SexprShell.Proofs.Source.Word
import SexprShell.Proofs.Script.Provenance
import SexprShell.Proofs.Script.WellBracketed
import SexprShell.Proofs.Script.SourceComments
import SexprShell.Proofs.Script.Invisible
import SexprShell.Proofs.Script.EntryPoints
import SexprShell.Proofs.Script.Annotation
import SexprShell.Proofs.Script.FunctionText
import SexprShell.Proofs.Script.MapLiteral
import SexprShell.Proofs.Script.ExpansionOptions
import SexprShell.Proofs.Script.SignatureParts
import SexprShell.Proofs.Script.Operands
import SexprShell.Proofs.Script.Joiners
import SexprShell.Proofs.Sexpr.Equivalence
import SexprShell.Proofs.Source.MapEntries
import SexprShell.Proofs.Script.Choice
import SexprShell.Proofs.Script.Undelimited
import SexprShell.Proofs.Script.Heads
import SexprShell.Proofs.Script.Places
import SexprShell.Proofs.Script.CommandTree
import SexprShell.Proofs.Script.FailureLocation
import SexprShell.Proofs.Script.Hyphens
import SexprShell.Proofs.Script.CommentedNames
import SexprShell.Proofs.Script.Munging
import SexprShell.Proofs.Number.Rounding
import SexprShell.Proofs.Number.Format
import SexprShell.Proofs.Number.Decimal
import SexprShell.Proofs.Number.Shortest
import SexprShell.Proofs.Script.Ratio
