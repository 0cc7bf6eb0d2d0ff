import Scaffold.Main
import Scaffold.Spec.Encoding
import Scaffold.Proofs.Generation.Confinement
import Scaffold.Proofs.Generation.Reporting
import Scaffold.Proofs.Template.Absence
import Scaffold.Proofs.Disk.WellFormed
import Scaffold.Proofs.Generation.Interruption
import Scaffold.Proofs.Disk.Making
import Scaffold.Proofs.Generation.Specifications
import Scaffold.Proofs.Generation.Regeneration
import Scaffold.Proofs.Catalog.Overlay
import Scaffold.Proofs.Catalog.Maintenance
import Scaffold.Proofs.Catalog.Builtins
import Scaffold.Proofs.Generation.Supplies
import Scaffold.Proofs.Generation.Defaults
import Scaffold.Proofs.Generation.Attribution
import Scaffold.Proofs.Generation.Pairing
import Scaffold.Proofs.Catalog.Reversion
import Scaffold.Proofs.Generation.Neutrality
import Scaffold.Proofs.Generation.ImportPaths
import Scaffold.Proofs.Catalog.HomeChoice
import Scaffold.Proofs.Generation.Coexistence
import Scaffold.Proofs.Text.Capitals
import Scaffold.Proofs.Text.Words
import Scaffold.Proofs.Generation.TypeNames
import Scaffold.Proofs.Text.Digits
import Scaffold.Proofs.Versions
import Scaffold.Proofs.Generation.Noninterference
import Scaffold.Proofs.Template.Outline
import Scaffold.Proofs.Template.Labels
import Scaffold.Proofs.Generation.Ports
import Scaffold.Proofs.Spec.Loosening
import Scaffold.Proofs.Spec.RoundTrip
import Scaffold.Proofs.Json.Printing
import Scaffold.Proofs.Spec.Documents
import Scaffold.Proofs.Text.Pieces
import Scaffold.Proofs.Generation.Completeness
import Scaffold.Proofs.Template.Scoping
import Scaffold.Proofs.Template.MissingKeys
import Scaffold.Proofs.Text.Separation
import Scaffold.Proofs.Text.StyleTexts
import Scaffold.Proofs.Generation.LastWords
import Scaffold.Proofs.Generation.Comments
import Scaffold.Proofs.Generation.Quotes
import Scaffold.Proofs.Generation.ServiceKeys
import Scaffold.Proofs.Generation.ImportBlocks
import Scaffold.Proofs.Generation.Qualifiers
import Scaffold.Proofs.Text.Titles
import Scaffold.Proofs.Generation.HandlerNames
import Scaffold.Proofs.Generation.TimeImports
import Scaffold.Proofs.Text.CamelCase
import Scaffold.Proofs.Generation.Signatures
import Scaffold.Proofs.Template.NamedArguments
import Scaffold.Proofs.Template.Reordering
import Scaffold.Proofs.Template.Matching
import Scaffold.Proofs.Template.ReorderedEvaluation
import Scaffold.Proofs.Template.ArgumentOrder
import Scaffold.Proofs.Generation.Acceptance
import Scaffold.Proofs.Generation.Precedence
import Scaffold.Proofs.Generation.Documentation
import Scaffold.Proofs.Generation.FirstInsertions
