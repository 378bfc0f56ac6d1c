import SyntaxForge.Api.Buildables
import SyntaxForge.Api.KindEnum
import SyntaxForge.Generate.Output
import SyntaxForge.Proofs.AddedIndentation
import SyntaxForge.Proofs.ArrayExtensions
import SyntaxForge.Proofs.ClosedGrammars
import SyntaxForge.Proofs.ConformanceVerdict
import SyntaxForge.Proofs.ConversionRoutes
import SyntaxForge.Proofs.DeclaredReferences
import SyntaxForge.Proofs.Documentation
import SyntaxForge.Proofs.EmittedConversions
import SyntaxForge.Proofs.FirstToken
import SyntaxForge.Proofs.Indentation
import SyntaxForge.Proofs.LiteralRoundTrip
import SyntaxForge.Proofs.Replacements
import SyntaxForge.Proofs.Search
import SyntaxForge.Proofs.WrapCalls
import SyntaxForge.Snapshot.Session
import SyntaxForge.Proofs.SearchOrder
import SyntaxForge.Proofs.RepeatedReplacements
import SyntaxForge.Proofs.CombinedLists
import SyntaxForge.Proofs.LiteralLengths
import SyntaxForge.Proofs.BareLines
import SyntaxForge.Proofs.FileLayout
import SyntaxForge.Proofs.BaseChains
import SyntaxForge.Proofs.EscapedNames
import SyntaxForge.Proofs.IdentifierTokens
import SyntaxForge.Proofs.SharedIndentation
import SyntaxForge.Proofs.SnakeCase
import SyntaxForge.Proofs.SpelledNames
