import TypstFences.Book.Chapters
import TypstFences.Book.Context
import TypstFences.Book.Program
import TypstFences.Cache.Basic
import TypstFences.Cache.Store
import TypstFences.Digest.Sha256
import TypstFences.Directive
import TypstFences.Document
import TypstFences.Engine.Basic
import TypstFences.Engine.Diagnostic
import TypstFences.Engine.Typst
import TypstFences.Fence
import TypstFences.Files.Glob
import TypstFences.Files.Path
import TypstFences.Files.Tree
import TypstFences.HiddenLines
import TypstFences.Highlight
import TypstFences.Host
import TypstFences.Json.Reader
import TypstFences.Json.Value
import TypstFences.Json.Writer
import TypstFences.Log
import TypstFences.Main
import TypstFences.Number.Binary64
import TypstFences.Number.Decimal
import TypstFences.Number.Numeral
import TypstFences.Number.Places
import TypstFences.Number.Sum
import TypstFences.Pass.Basic
import TypstFences.Pass.Plan
import TypstFences.PassError
import TypstFences.Proofs.Association
import TypstFences.Proofs.Book.Compiling
import TypstFences.Proofs.Book.Report
import TypstFences.Proofs.Book.Visiting
import TypstFences.Proofs.Cache.Callers
import TypstFences.Proofs.Cache.Directory
import TypstFences.Proofs.Cache.Edits
import TypstFences.Proofs.Cache.Interruption
import TypstFences.Proofs.Cache.Layers
import TypstFences.Proofs.Cache.Leftovers
import TypstFences.Proofs.Cache.Loading
import TypstFences.Proofs.Cache.Names
import TypstFences.Proofs.Cache.OneCaller
import TypstFences.Proofs.Cache.Saving
import TypstFences.Proofs.Cache.SingleFlight
import TypstFences.Proofs.Document.Concat
import TypstFences.Proofs.Document.Grammar
import TypstFences.Proofs.Document.HiddenLines
import TypstFences.Proofs.Document.InfoString
import TypstFences.Proofs.Document.LineEndings
import TypstFences.Proofs.Document.Ordinary
import TypstFences.Proofs.Document.Position
import TypstFences.Proofs.Document.Scan
import TypstFences.Proofs.Engine.Diagnostic
import TypstFences.Proofs.Engine.Outcomes
import TypstFences.Proofs.Engine.Run
import TypstFences.Proofs.Files.Edits
import TypstFences.Proofs.Files.Glob
import TypstFences.Proofs.Files.Images
import TypstFences.Proofs.Files.Path
import TypstFences.Proofs.Files.Places
import TypstFences.Proofs.Files.Tree
import TypstFences.Proofs.Json.Texts
import TypstFences.Proofs.Pass.Accounting
import TypstFences.Proofs.Pass.AnyOrder
import TypstFences.Proofs.Pass.Call
import TypstFences.Proofs.Pass.Coherence
import TypstFences.Proofs.Pass.Concat
import TypstFences.Proofs.Pass.Conclusion
import TypstFences.Proofs.Pass.Evaluation
import TypstFences.Proofs.Pass.FailFast
import TypstFences.Proofs.Pass.FailureLines
import TypstFences.Proofs.Pass.Foretold
import TypstFences.Proofs.Pass.Gathering
import TypstFences.Proofs.Pass.Idempotence
import TypstFences.Proofs.Pass.LineEndings
import TypstFences.Proofs.Pass.Meaning
import TypstFences.Proofs.Pass.Modes
import TypstFences.Proofs.Pass.Needed
import TypstFences.Proofs.Pass.Pieces
import TypstFences.Proofs.Pass.Precedence
import TypstFences.Proofs.Pass.Rest
import TypstFences.Proofs.Pass.Sequence
import TypstFences.Proofs.Pass.Sharing
import TypstFences.Proofs.Pass.SourceLines
import TypstFences.Proofs.Pass.Stages
import TypstFences.Proofs.Pass.Steadiness
import TypstFences.Proofs.Pass.Told
import TypstFences.Proofs.Pass.Transparency
import TypstFences.Proofs.Pass.Unrendered
import TypstFences.Proofs.Pass.Untouched
import TypstFences.Proofs.Render.Attempts
import TypstFences.Proofs.Render.Delivery
import TypstFences.Proofs.Render.Economy
import TypstFences.Proofs.Render.Event
import TypstFences.Proofs.Render.Expectation
import TypstFences.Proofs.Render.Identity
import TypstFences.Proofs.Render.Independence
import TypstFences.Proofs.Render.Invocation
import TypstFences.Proofs.Render.Lockstep
import TypstFences.Proofs.Render.Memory
import TypstFences.Proofs.Render.Origin
import TypstFences.Proofs.Render.Payload
import TypstFences.Proofs.Render.Progress
import TypstFences.Proofs.Render.Reconfiguration
import TypstFences.Proofs.Render.Replies
import TypstFences.Proofs.Render.Truth
import TypstFences.Proofs.Settings.LastWins
import TypstFences.Proofs.Settings.Override
import TypstFences.Proofs.Site.Accounting
import TypstFences.Proofs.Site.Foreign
import TypstFences.Proofs.Site.Halting
import TypstFences.Proofs.Site.Isolation
import TypstFences.Proofs.Site.Telling
import TypstFences.Proofs.Site.Writing
import TypstFences.Proofs.Text.Blank
import TypstFences.Proofs.Text.Bytes
import TypstFences.Proofs.Text.Indentation
import TypstFences.Proofs.Text.LineEndings
import TypstFences.Proofs.Text.Lines
import TypstFences.Proofs.Text.Numbered
import TypstFences.Proofs.Text.Order
import TypstFences.Proofs.Text.Parts
import TypstFences.Registry
import TypstFences.Render.Request
import TypstFences.Render.Result
import TypstFences.Render.Schedule
import TypstFences.Render.Submission
import TypstFences.Replacement
import TypstFences.Settings.Candidate
import TypstFences.Settings.Check
import TypstFences.Settings.Entries
import TypstFences.Settings.Field
import TypstFences.Settings.Override
import TypstFences.Settings.Surroundings
import TypstFences.Settings.Variables
import TypstFences.Site.Arguments
import TypstFences.Site.Program
import TypstFences.Site.Stages
import TypstFences.Site.State
import TypstFences.Template.Basic
import TypstFences.Template.Figure
import TypstFences.Template.Kind
import TypstFences.Template.Layout
import TypstFences.Template.Manual
import TypstFences.Template.Manual.Collections
import TypstFences.Template.Manual.Numbers
import TypstFences.Template.Manual.Texts
import TypstFences.Template.Manual.Things
import TypstFences.Template.Referent
import TypstFences.Text.Basic
import TypstFences.Text.Blank
import TypstFences.Text.Digit
import TypstFences.Text.Line
import TypstFences.Text.Lower
import TypstFences.Text.Quoted
import TypstFences.Text.Unseen
import TypstFences.Text.Utf8
import TypstFences.Yaml.Block
import TypstFences.Yaml.Cursor
import TypstFences.Yaml.Document
import TypstFences.Yaml.Kind
import TypstFences.Yaml.Moment
import TypstFences.Yaml.Name
import TypstFences.Yaml.Node
import TypstFences.Yaml.Plain
import TypstFences.Yaml.Quoted
import TypstFences.Yaml.Token
import TypstFences.Yaml.Value
