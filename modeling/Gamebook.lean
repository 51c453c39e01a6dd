import Gamebook.Table
import Gamebook.Binary64.Layout
import Gamebook.Text.Blank
import Gamebook.Text.Quoted
import Gamebook.Text.Utf8
import Gamebook.Text.Lines
import Gamebook.Text.CellWidth
import Gamebook.Json.Number
import Gamebook.Json.Shown
import Gamebook.Json.Writer
import Gamebook.Json.Reader
import Gamebook.IdSet
import Gamebook.Kind
import Gamebook.Reference
import Gamebook.Reference.Condition
import Gamebook.Reference.Scene
import Gamebook.SceneIndex
import Gamebook.CrossReference
import Gamebook.Links
import Gamebook.Links.Search
import Gamebook.Links.Cycle
import Gamebook.Reachability
import Gamebook.Path
import Gamebook.Disk
import Gamebook.Document
import Gamebook.Corpus
import Gamebook.Text.Numeral
import Gamebook.Story.Issue
import Gamebook.Story.Scalar
import Gamebook.Story.Condition
import Gamebook.Story.Effect
import Gamebook.Story.Scene
import Gamebook.Story.Manifest
import Gamebook.Story.Review
import Gamebook.Schema.Misfit
import Gamebook.Schema.Draft
import Gamebook.Schema.Pointer
import Gamebook.Schema.Violation
import Gamebook.Schema.Check
import Gamebook.Schema.Meta
import Gamebook.Schema.Standard
import Gamebook.Schema.Registry
import Gamebook.Fault
import Gamebook.Log.Event
import Gamebook.Log.Template
import Gamebook.Log.Recording
import Gamebook.Report
import Gamebook.Settings
import Gamebook.Corpus.Load
import Gamebook.Validation
import Gamebook.Settings.Read
import Gamebook.Yaml.Timestamp
import Gamebook.Yaml.Fault
import Gamebook.Yaml.Node
import Gamebook.Yaml.Cursor
import Gamebook.Yaml.Scalar
import Gamebook.Yaml.Token
import Gamebook.Yaml.Tree
import Gamebook.Yaml.Plain
import Gamebook.Yaml.Merge
import Gamebook.Yaml.Value
import Gamebook.Yaml.Document
import Gamebook.Settings.File
import Gamebook.Terminal.Markup
import Gamebook.Terminal.Paragraph
import Gamebook.Terminal.Grid
import Gamebook.CommandLine.Grammar
import Gamebook.CommandLine.Request
import Gamebook.CommandLine.Outcome
import Gamebook.CommandLine.Validate
import Gamebook.CommandLine.Reachability
import Gamebook.CommandLine.Session
import Gamebook.Main
import Gamebook.Proofs.Result
import Gamebook.Proofs.Table
import Gamebook.Proofs.IdSet
import Gamebook.Proofs.Json
import Gamebook.Proofs.Kind
import Gamebook.Proofs.SceneIndex
import Gamebook.Proofs.Reference
import Gamebook.Proofs.Links
import Gamebook.Proofs.Links.Search
import Gamebook.Proofs.Reachability
import Gamebook.Proofs.CrossReference
import Gamebook.Proofs.Corpus
import Gamebook.Proofs.Corpus.Load
import Gamebook.Proofs.Schema.Findings
import Gamebook.Proofs.Schema.Check
import Gamebook.Proofs.Schema.Scene
import Gamebook.Proofs.Schema.Registry
import Gamebook.Proofs.Validation.Report
import Gamebook.Proofs.Validation.Survey
import Gamebook.Proofs.Validation
import Gamebook.Proofs.Validation.Agreement
import Gamebook.Proofs.Validation.Transition
import Gamebook.Proofs.Links.Cycle
import Gamebook.Proofs.Story.Review
import Gamebook.Proofs.Validation.Review
import Gamebook.Proofs.Story.Checked
import Gamebook.Proofs.Story.Scene
import Gamebook.Proofs.Story.Transition
import Gamebook.Proofs.Schema.Tame
import Gamebook.Proofs.Schema.Standard
import Gamebook.Proofs.Schema.Load
import Gamebook.Proofs.Validation.Ending
import Gamebook.Proofs.Validation.Errors
import Gamebook.Proofs.Story.ManifestReview
import Gamebook.Proofs.Validation.ManifestReview
import Gamebook.Proofs.Disk
import Gamebook.Proofs.Validation.Items
import Gamebook.Proofs.Validation.Comparison
import Gamebook.Proofs.Validation.Roles
import Gamebook.Proofs.Validation.Unreadable
import Gamebook.Proofs.Validation.Renaming
import Gamebook.Proofs.Reference.Order
import Gamebook.Proofs.Links.Order
import Gamebook.Proofs.Reachability.Order
import Gamebook.Proofs.Reachability.Growth
import Gamebook.Proofs.Story.Normal
import Gamebook.Proofs.Story.Normal.Condition
import Gamebook.Proofs.Story.Normal.Effect
import Gamebook.Proofs.Story.Normal.Shape
import Gamebook.Proofs.Validation.Definition
import Gamebook.Proofs.Settings
import Gamebook.Proofs.Links.Route
import Gamebook.Proofs.Links.Cycle.Distinct
import Gamebook.Proofs.Reachability.Limit
import Gamebook.Proofs.Validation.Strictness
import Gamebook.Proofs.CommandLine.Switch
import Gamebook.Proofs.CommandLine.Validate
import Gamebook.Proofs.Links.Edit
import Gamebook.Proofs.Links.Closure
import Gamebook.Proofs.Links.Inverse
import Gamebook.Proofs.Reference.Condition
import Gamebook.Proofs.Reference.Scene
import Gamebook.Proofs.Schema.Recognize
import Gamebook.Proofs.Validation.Grammar
import Gamebook.Proofs.Schema.Message
import Gamebook.Proofs.Schema.Pointer
import Gamebook.Proofs.Validation.Mismatch
import Gamebook.Proofs.Validation.Repetition
import Gamebook.Proofs.Validation.SeedReview
import Gamebook.Proofs.Links.Search.Progress
import Gamebook.Proofs.Links.Cycle.Loop
import Gamebook.Proofs.Links.Cycle.Progress
import Gamebook.Proofs.Story.Acceptance
import Gamebook.Proofs.Story.Condition
