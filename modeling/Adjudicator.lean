import Adjudicator.Assistant.Answer
import Adjudicator.Assistant.Basic
import Adjudicator.Assistant.Prompt
import Adjudicator.Assistant.Tool
import Adjudicator.Code.Arguments
import Adjudicator.Code.Body
import Adjudicator.Code.Literal
import Adjudicator.Code.Signature
import Adjudicator.CommandLine.Arguments
import Adjudicator.CommandLine.Commands
import Adjudicator.Difference.Settled
import Adjudicator.Difference.Shortest
import Adjudicator.Divergence.Basic
import Adjudicator.Divergence.Cascade
import Adjudicator.Divergence.Failure
import Adjudicator.Divergence.Inference
import Adjudicator.Divergence.Reply
import Adjudicator.Divergence.Static
import Adjudicator.Error
import Adjudicator.Folder.Access
import Adjudicator.Folder.Basic
import Adjudicator.History.Archive
import Adjudicator.History.Commit
import Adjudicator.History.Instant
import Adjudicator.History.Origins
import Adjudicator.History.Queue
import Adjudicator.History.Renaming
import Adjudicator.History.Repository
import Adjudicator.Json.Basic
import Adjudicator.Json.Reader
import Adjudicator.Main
import Adjudicator.Mutation.Basic
import Adjudicator.Mutation.Candidates
import Adjudicator.Mutation.Judgement
import Adjudicator.Mutation.Masked
import Adjudicator.Mutation.Report
import Adjudicator.Number.Dyadic
import Adjudicator.Number.Reading
import Adjudicator.Number.Shortest
import Adjudicator.Number.Written
import Adjudicator.Outline.Basic
import Adjudicator.Outline.ByLine
import Adjudicator.Outline.Comparison
import Adjudicator.Outline.Parse
import Adjudicator.Outline.Python.Collect
import Adjudicator.Outline.Python.Expressions
import Adjudicator.Outline.Python.Statements
import Adjudicator.Outline.Python.Token
import Adjudicator.Outline.Read
import Adjudicator.Outline.Script.Collect
import Adjudicator.Outline.Script.Expressions
import Adjudicator.Outline.Script.Markup
import Adjudicator.Outline.Script.Statements
import Adjudicator.Outline.Script.Symbol
import Adjudicator.Outline.Script.Token
import Adjudicator.Outline.Script.Types
import Adjudicator.Outline.Tree
import Adjudicator.Pairing
import Adjudicator.Pattern.Basic
import Adjudicator.Pattern.Build
import Adjudicator.Pattern.Search
import Adjudicator.Program.Basic
import Adjudicator.Progress
import Adjudicator.Project.Discovery
import Adjudicator.Project.Exclusion
import Adjudicator.Project.Glob
import Adjudicator.Project.Workspace
import Adjudicator.Proofs.Assistant.Attempts
import Adjudicator.Proofs.Assistant.Fenced
import Adjudicator.Proofs.Assistant.RoundTrip
import Adjudicator.Proofs.Assistant.Sections
import Adjudicator.Proofs.Code.Arguments
import Adjudicator.Proofs.Code.Braces
import Adjudicator.Proofs.Code.Contents
import Adjudicator.Proofs.Code.Items
import Adjudicator.Proofs.Code.Span
import Adjudicator.Proofs.Divergence.Cascade
import Adjudicator.Proofs.Divergence.Explained
import Adjudicator.Proofs.Divergence.Inference
import Adjudicator.Proofs.Divergence.Literals
import Adjudicator.Proofs.Divergence.Messages
import Adjudicator.Proofs.Divergence.Numbers
import Adjudicator.Proofs.Divergence.Replies
import Adjudicator.Proofs.History.Recent
import Adjudicator.Proofs.Mutation.Assertions
import Adjudicator.Proofs.Mutation.Edits
import Adjudicator.Proofs.Mutation.Literals
import Adjudicator.Proofs.Mutation.Masked
import Adjudicator.Proofs.Mutation.Numbers
import Adjudicator.Proofs.Mutation.Returned
import Adjudicator.Proofs.Mutation.Stripped
import Adjudicator.Proofs.Mutation.WeakSpots
import Adjudicator.Proofs.Number.Bits
import Adjudicator.Proofs.Number.Finite
import Adjudicator.Proofs.Number.Nearest
import Adjudicator.Proofs.Number.Packing
import Adjudicator.Proofs.Number.Quotient
import Adjudicator.Proofs.Number.Rounding
import Adjudicator.Proofs.Number.Shortest
import Adjudicator.Proofs.Number.Signed
import Adjudicator.Proofs.Number.Unsigned
import Adjudicator.Proofs.Number.Whole
import Adjudicator.Proofs.Outline.Contradiction
import Adjudicator.Proofs.Outline.Sides
import Adjudicator.Proofs.Outline.Unexplained
import Adjudicator.Proofs.Pairing.Choice
import Adjudicator.Proofs.Pairing.Conventions
import Adjudicator.Proofs.Pattern.Avoided
import Adjudicator.Proofs.Pattern.Groups
import Adjudicator.Proofs.Pattern.Matches
import Adjudicator.Proofs.Pattern.Needed
import Adjudicator.Proofs.Pattern.Occurrences
import Adjudicator.Proofs.Pattern.Offers
import Adjudicator.Proofs.Pattern.Taken
import Adjudicator.Proofs.Progress.Nesting
import Adjudicator.Proofs.Reader.Comparison
import Adjudicator.Proofs.Reader.Dedent
import Adjudicator.Proofs.Reader.Equality
import Adjudicator.Proofs.Reader.Grouped
import Adjudicator.Proofs.Reader.Overlap
import Adjudicator.Proofs.Reader.Owners
import Adjudicator.Proofs.Reader.Placement
import Adjudicator.Proofs.Reader.Repeated
import Adjudicator.Proofs.Reader.Titles
import Adjudicator.Proofs.Reader.Typed
import Adjudicator.Proofs.Report.Consistency
import Adjudicator.Proofs.Report.Course
import Adjudicator.Proofs.Report.Gathering
import Adjudicator.Proofs.Report.Passing
import Adjudicator.Proofs.Report.Pool
import Adjudicator.Proofs.Report.Unaided
import Adjudicator.Proofs.Settings.Delay
import Adjudicator.Proofs.TestRun.Failures
import Adjudicator.Proofs.TestRun.Names
import Adjudicator.Proofs.TestRun.Printed
import Adjudicator.Proofs.TestRun.Runs
import Adjudicator.Proofs.Value.Decimal
import Adjudicator.Proofs.Value.Evaluation
import Adjudicator.Proofs.Value.Grammar
import Adjudicator.Proofs.Value.Literal
import Adjudicator.Proofs.Value.Numeral
import Adjudicator.Proofs.Value.Places
import Adjudicator.Proofs.Value.Reading
import Adjudicator.Proofs.Value.Shown
import Adjudicator.Proofs.Value.Signed
import Adjudicator.Proofs.Value.Written
import Adjudicator.Proofs.Verdict.Classification
import Adjudicator.Proofs.Verdict.HistoryLimit
import Adjudicator.Proofs.Verdict.Vocabulary
import Adjudicator.Reader.Basic
import Adjudicator.Reader.Csharp
import Adjudicator.Reader.Go
import Adjudicator.Reader.Idiom
import Adjudicator.Reader.Java
import Adjudicator.Reader.Python
import Adjudicator.Reader.Rust
import Adjudicator.Reader.Script
import Adjudicator.Reader.Source
import Adjudicator.Report.Assessment
import Adjudicator.Report.Basic
import Adjudicator.Report.Description
import Adjudicator.Report.Grid
import Adjudicator.Report.Rendering
import Adjudicator.Settings.Basic
import Adjudicator.Settings.File
import Adjudicator.Settings.Retry
import Adjudicator.Shell.Run
import Adjudicator.Shell.Script
import Adjudicator.Suite.Declaration
import Adjudicator.Suite.Language
import Adjudicator.Suite.Path
import Adjudicator.Suite.Record
import Adjudicator.TestRun.Basic
import Adjudicator.TestRun.Console
import Adjudicator.TestRun.Execution
import Adjudicator.TestRun.Runner
import Adjudicator.Text.Blank
import Adjudicator.Text.Lines
import Adjudicator.Text.Lowercase
import Adjudicator.Text.Search
import Adjudicator.Text.Table.Lowercase
import Adjudicator.Text.Table.Wide
import Adjudicator.Text.Table.Word
import Adjudicator.Text.Width
import Adjudicator.Text.WordChar
import Adjudicator.Toml.Basic
import Adjudicator.Toml.Reader
import Adjudicator.Toml.Scalar
import Adjudicator.Value.Expression
import Adjudicator.Value.Literal
import Adjudicator.Value.Source
import Adjudicator.Verdict.Basic
import Adjudicator.Verdict.Classification
import Adjudicator.Verdict.Intent
import Adjudicator.Verdict.Recommendation
import Adjudicator.Verdict.Screening
