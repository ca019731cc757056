import Desugar.Edit
import Desugar.Logging
import Desugar.Pass
import Desugar.Proofs.BuiltTree
import Desugar.Proofs.ClassPass
import Desugar.Proofs.Erasure
import Desugar.Proofs.Expansion
import Desugar.Proofs.Findings
import Desugar.Proofs.Groups
import Desugar.Proofs.IgnoredKeys
import Desugar.Proofs.KeyOrder
import Desugar.Proofs.Levels
import Desugar.Proofs.LiveBody
import Desugar.Proofs.LiveLists
import Desugar.Proofs.MergedFilters
import Desugar.Proofs.Noting
import Desugar.Proofs.PathText
import Desugar.Proofs.QualifiedNames
import Desugar.Proofs.QuotedText
import Desugar.Proofs.Reexpansion
import Desugar.Proofs.Registry
import Desugar.Proofs.Relocation
import Desugar.Proofs.Rematching
import Desugar.Proofs.Reporting
import Desugar.Proofs.Rewriting
import Desugar.Proofs.Session
import Desugar.Proofs.ShownTexts
import Desugar.Proofs.Stepwise
import Desugar.Proofs.TreeMap
import Desugar.Proofs.Unambiguity
import Desugar.Proofs.UniqueKeys
import Desugar.Proofs.UnknownEntries
import Desugar.Proofs.VisibilityRuns
import Desugar.Proofs.WrittenPaths
import Desugar.Syntax.Equality
import Desugar.Syntax.Erasure
import Desugar.Syntax.Relocation
