import HomeConfig.Command.Arguments
import HomeConfig.Command.Course
import HomeConfig.Command.Workspace
import HomeConfig.Completion.Item
import HomeConfig.Completion.Offer
import HomeConfig.Completion.Resolution
import HomeConfig.Completion.Vocabulary
import HomeConfig.Console.Frame
import HomeConfig.Console.Markup
import HomeConfig.Diagnosis.Check
import HomeConfig.Diagnosis.Finding
import HomeConfig.Document.Context
import HomeConfig.Document.Reference
import HomeConfig.Document.Template
import HomeConfig.Editor.Capability
import HomeConfig.Editor.Change
import HomeConfig.Editor.Documents
import HomeConfig.Editor.Schedule
import HomeConfig.Editor.Session
import HomeConfig.Editor.Wire
import HomeConfig.Failure
import HomeConfig.Files.Host
import HomeConfig.Files.Path
import HomeConfig.Files.Tree
import HomeConfig.Files.Uri
import HomeConfig.Hover
import HomeConfig.Json.Basic
import HomeConfig.Json.Reader
import HomeConfig.Json.Writer
import HomeConfig.Live.Activity
import HomeConfig.Live.Address
import HomeConfig.Live.Cache
import HomeConfig.Live.Entity
import HomeConfig.Live.Query
import HomeConfig.Live.Registry
import HomeConfig.Live.Request
import HomeConfig.Live.Service
import HomeConfig.Live.WarmUp
import HomeConfig.Log
import HomeConfig.Main
import HomeConfig.Navigation.Definition
import HomeConfig.Notice
import HomeConfig.Number.Binary64
import HomeConfig.Number.Numeral
import HomeConfig.Number.Shortest
import HomeConfig.Rehearsal.Agenda
import HomeConfig.Rehearsal.Course
import HomeConfig.Rehearsal.Notation
import HomeConfig.Rehearsal.Passes
import HomeConfig.Rehearsal.Script
import HomeConfig.Rehearsal.Session
import HomeConfig.Rehearsal.Stage
import HomeConfig.Rehearsal.Timeline
import HomeConfig.Settings.Basic
import HomeConfig.Settings.Coercion
import HomeConfig.Settings.EnvironmentFile
import HomeConfig.Table
import HomeConfig.Template.Grammar
import HomeConfig.Template.Issue
import HomeConfig.Template.Token
import HomeConfig.Text.Base64
import HomeConfig.Text.Basic
import HomeConfig.Text.Class.Blank
import HomeConfig.Text.Class.Case
import HomeConfig.Text.Class.Digit
import HomeConfig.Text.Class.Identifier
import HomeConfig.Text.Class.Printable
import HomeConfig.Text.Class.Range
import HomeConfig.Text.Class.Word
import HomeConfig.Text.Hexadecimal
import HomeConfig.Text.Percent
import HomeConfig.Text.Position
import HomeConfig.Text.Quoted
import HomeConfig.Text.Recogniser
import HomeConfig.Text.Token
import HomeConfig.Text.Utf8
import HomeConfig.Text.Word
import HomeConfig.Yaml.Construction
import HomeConfig.Yaml.Document
import HomeConfig.Yaml.Error
import HomeConfig.Yaml.Mark
import HomeConfig.Yaml.Node
import HomeConfig.Yaml.Schema
import HomeConfig.Yaml.Timestamp
import HomeConfig.Yaml.Token
import HomeConfig.Yaml.Tokenise
import HomeConfig.Yaml.Value
import HomeConfig.Proofs.Schedule.Run
import HomeConfig.Proofs.Schedule.Publication
import HomeConfig.Proofs.Schedule.Starts
import HomeConfig.Proofs.Schedule.Alone
import HomeConfig.Proofs.Session.Check
import HomeConfig.Proofs.Session.Present
import HomeConfig.Proofs.Session.Shown
import HomeConfig.Proofs.Cache.Latest
import HomeConfig.Proofs.Cache.Serving
import HomeConfig.Proofs.Cache.Stale
import HomeConfig.Proofs.Cache.Barrier
import HomeConfig.Proofs.Live.Run
import HomeConfig.Proofs.Live.Lists
import HomeConfig.Proofs.Live.Index
import HomeConfig.Proofs.Live.Barrier
import HomeConfig.Proofs.Rehearsal.Agenda
import HomeConfig.Proofs.Rehearsal.Timeline
import HomeConfig.Proofs.Rehearsal.Debounce
import HomeConfig.Proofs.Rehearsal.OnTime
import HomeConfig.Proofs.Rehearsal.Deeds
import HomeConfig.Proofs.Live.Lookup
import HomeConfig.Proofs.Text.Line
import HomeConfig.Proofs.Text.Part
import HomeConfig.Proofs.Text.Position
import HomeConfig.Proofs.Text.Recogniser
import HomeConfig.Proofs.Text.Scan
import HomeConfig.Proofs.Document.Cursor
import HomeConfig.Proofs.Document.Open
import HomeConfig.Proofs.Document.Enclosing
import HomeConfig.Proofs.Document.Outline
import HomeConfig.Proofs.Document.Shape
import HomeConfig.Proofs.Document.Reference
import HomeConfig.Proofs.Document.Exact
import HomeConfig.Proofs.Live.Given
import HomeConfig.Proofs.Live.Settled
import HomeConfig.Proofs.Live.Orderly
import HomeConfig.Proofs.Document.Unknown
import HomeConfig.Proofs.Document.Whole
import HomeConfig.Proofs.Completion.Typed
import HomeConfig.Proofs.Completion.Offer
import HomeConfig.Proofs.Completion.Continued
import HomeConfig.Proofs.Completion.Ahead
import HomeConfig.Proofs.Completion.Resolution
import HomeConfig.Proofs.Text.Case
import HomeConfig.Proofs.Completion.Registry
import HomeConfig.Proofs.Completion.Acceptance
import HomeConfig.Proofs.Completion.Value
import HomeConfig.Proofs.Editor.Change
import HomeConfig.Proofs.Session.Correction
import HomeConfig.Proofs.Live.Served
import HomeConfig.Proofs.Document.Independence
import HomeConfig.Proofs.Text.Token
import HomeConfig.Proofs.Document.Token
import HomeConfig.Proofs.Hover.Target
import HomeConfig.Proofs.Hover.Agreement
import HomeConfig.Proofs.Hover.Key
import HomeConfig.Proofs.Text.View
import HomeConfig.Proofs.Text.Confined
import HomeConfig.Proofs.Text.Return
import HomeConfig.Proofs.Document.Return
import HomeConfig.Proofs.Document.Line
import HomeConfig.Proofs.Navigation.Agreement
import HomeConfig.Proofs.Template.Reading
import HomeConfig.Proofs.Template.Expression
import HomeConfig.Proofs.Template.Statement
import HomeConfig.Proofs.Template.Lexeme
import HomeConfig.Proofs.Template.Cut
import HomeConfig.Proofs.Template.Span
import HomeConfig.Proofs.Template.Issue
import HomeConfig.Proofs.Number.Rounding
import HomeConfig.Proofs.Number.Shortest
import HomeConfig.Proofs.Json.Numeral
import HomeConfig.Proofs.Json.Characters
import HomeConfig.Proofs.Json.RoundTrip
import HomeConfig.Proofs.Live.Rendered
import HomeConfig.Proofs.Text.Offset
import HomeConfig.Proofs.Text.Written
import HomeConfig.Proofs.Text.Ended
import HomeConfig.Proofs.Document.Record
import HomeConfig.Proofs.Document.Item
import HomeConfig.Proofs.Document.List
import HomeConfig.Proofs.Live.Visit
import HomeConfig.Proofs.Completion.Atomic
import HomeConfig.Proofs.Hover.Expression
import HomeConfig.Proofs.Text.Markdown
import HomeConfig.Proofs.Hover.Table
import HomeConfig.Proofs.Yaml.Mark
import HomeConfig.Proofs.Yaml.Step
import HomeConfig.Proofs.Yaml.Tokenise
import HomeConfig.Proofs.Yaml.Assemble
import HomeConfig.Proofs.Yaml.Construct
import HomeConfig.Proofs.Yaml.Load
import HomeConfig.Proofs.Document.Malformed
import HomeConfig.Proofs.Schedule.Lifetime
import HomeConfig.Proofs.Schedule.InStep
import HomeConfig.Proofs.Text.TokenSpan
