import FeatureSuite.Main
import FeatureSuite.Suite.Building
import FeatureSuite.Proofs.Outcome
import FeatureSuite.Proofs.Gherkin.Numbering
import FeatureSuite.Proofs.Gherkin.PieceOrder
import FeatureSuite.Proofs.Gherkin.Regular
import FeatureSuite.Proofs.Suite.Filling
import FeatureSuite.Proofs.Suite.Suggestion
import FeatureSuite.Proofs.Suite.Planning
import FeatureSuite.Proofs.Suite.Body
import FeatureSuite.Proofs.Suite.Build
import FeatureSuite.Proofs.Suite.TagMap
import FeatureSuite.Proofs.Suite.Signature
import FeatureSuite.Proofs.Gherkin.Source
import FeatureSuite.Proofs.Suite.Lookup
import FeatureSuite.Proofs.Suite.Alignment
import FeatureSuite.Proofs.Suite.Missing
import FeatureSuite.Proofs.Page.Forest
import FeatureSuite.Proofs.Page.Used
import FeatureSuite.Proofs.Page.Candidates
import FeatureSuite.Proofs.Step.Registration
import FeatureSuite.Proofs.Batch.Completion
import FeatureSuite.Proofs.Files.Writing
import FeatureSuite.Proofs.Batch.Naming
import FeatureSuite.Proofs.Batch.Content
import FeatureSuite.Proofs.Batch.Modules
import FeatureSuite.Proofs.Suite.Declared
import FeatureSuite.Proofs.Step.Freezing
import FeatureSuite.Proofs.Suite.Extension
import FeatureSuite.Proofs.Suite.Failures
import FeatureSuite.Proofs.Suite.Undefined
import FeatureSuite.Proofs.Page.Linearization
import FeatureSuite.Proofs.Step.Hierarchy
import FeatureSuite.Proofs.Step.Inheritance
import FeatureSuite.Proofs.Step.Scoping
import FeatureSuite.Proofs.Step.Bracketing
import FeatureSuite.Proofs.Step.Conjunction
import FeatureSuite.Proofs.Suite.Inherited
import FeatureSuite.Proofs.Gherkin.Language
import FeatureSuite.Proofs.Suite.Words
import FeatureSuite.Proofs.Gherkin.Wire
import FeatureSuite.Proofs.Suite.Alike
import FeatureSuite.Proofs.Suite.Translation
import FeatureSuite.Proofs.Suite.Sharing
import FeatureSuite.Proofs.Suite.Names
import FeatureSuite.Proofs.Gherkin.UnitLines
import FeatureSuite.Proofs.Suite.Choices
import FeatureSuite.Proofs.Step.Captures
import FeatureSuite.Proofs.Step.Search
import FeatureSuite.Proofs.Suite.Calls
import FeatureSuite.Proofs.Suite.Checked
import FeatureSuite.Proofs.Suite.Parameters
import FeatureSuite.Proofs.Text.Lowering
import FeatureSuite.Proofs.Suite.Identifiers
import FeatureSuite.Proofs.Suite.Fixtures
import FeatureSuite.Proofs.Suite.ParameterNames
import FeatureSuite.Proofs.Suite.Passing
import FeatureSuite.Proofs.Suite.Unbroken
import FeatureSuite.Proofs.Suite.Snippets
import FeatureSuite.Proofs.Console.Verbatim
import FeatureSuite.Proofs.Command.Listing
import FeatureSuite.Proofs.Regex.Preferred
import FeatureSuite.Proofs.Regex.Reads
import FeatureSuite.Proofs.Step.PlainFields
import FeatureSuite.Proofs.Suite.SnippetPattern
import FeatureSuite.Proofs.Suite.SnippetMatching
import FeatureSuite.Proofs.Console.Tagged
import FeatureSuite.Proofs.Command.Reporting
import FeatureSuite.Proofs.Batch.Footprint
import FeatureSuite.Proofs.Suite.Rebuilding
import FeatureSuite.Proofs.Suite.Imports
import FeatureSuite.Proofs.Suite.SharedTitles
import FeatureSuite.Proofs.Suite.Placeholders
import FeatureSuite.Proofs.Suite.Rows
import FeatureSuite.Proofs.Suite.Roles
import FeatureSuite.Proofs.Files.Discovery
import FeatureSuite.Proofs.Suite.SnippetReading
