import BeanDoc.Accessor.Category
import BeanDoc.Accessor.Kind
import BeanDoc.Accessor.Property
import BeanDoc.ClassFile
import BeanDoc.ClassModel
import BeanDoc.Command.Dispatch
import BeanDoc.Command.Fault
import BeanDoc.Command.Generate
import BeanDoc.Command.Invoke
import BeanDoc.Command.OpenStore
import BeanDoc.Command.Templates
import BeanDoc.Database
import BeanDoc.Decimal.Reader
import BeanDoc.Decimal.Shortest
import BeanDoc.Decimal.Word
import BeanDoc.DocComment.Basic
import BeanDoc.DocComment.Block
import BeanDoc.DocComment.Grammar
import BeanDoc.DocComment.Layout
import BeanDoc.Editor
import BeanDoc.Files.ClassDocument
import BeanDoc.Files.Content
import BeanDoc.Files.DatabaseFile
import BeanDoc.Files.Path
import BeanDoc.Files.Tree
import BeanDoc.Generation.Edit
import BeanDoc.Generation.Outcome
import BeanDoc.Json.Decoder
import BeanDoc.Json.Fault
import BeanDoc.Json.Input
import BeanDoc.Json.Printer
import BeanDoc.Json.Reader
import BeanDoc.Json.Scalar
import BeanDoc.Json.Skip
import BeanDoc.Json.Tagged
import BeanDoc.Json.Value
import BeanDoc.Main
import BeanDoc.Proofs.CandidatePlaces
import BeanDoc.Proofs.CanonicalComment
import BeanDoc.Proofs.CheckedTemplate
import BeanDoc.Proofs.ContentLines
import BeanDoc.Proofs.EditedClass
import BeanDoc.Proofs.ExpansionBlocks
import BeanDoc.Proofs.GeneratedEdits
import BeanDoc.Proofs.LayoutMeaning
import BeanDoc.Proofs.MigratedDatabase
import BeanDoc.Proofs.NormalComment
import BeanDoc.Proofs.ReferenceRendering
import BeanDoc.Proofs.ReferenceTemplate
import BeanDoc.Proofs.RepeatedRuns
import BeanDoc.Proofs.ReplacedWord
import BeanDoc.Proofs.RunComments
import BeanDoc.Proofs.RunCounts
import BeanDoc.Proofs.TagLines
import BeanDoc.Proofs.TemplatePieces
import BeanDoc.Proofs.TextLines
import BeanDoc.Proofs.TrimmedText
import BeanDoc.Run
import BeanDoc.Selection
import BeanDoc.Settings.Basic
import BeanDoc.Settings.CommandArguments
import BeanDoc.Settings.CommandOption
import BeanDoc.Settings.ConfigurationFile
import BeanDoc.Settings.Environment
import BeanDoc.Settings.Layer
import BeanDoc.Settings.Load
import BeanDoc.Settings.Source
import BeanDoc.Store.Address
import BeanDoc.Store.Basic
import BeanDoc.Store.DatabaseStore
import BeanDoc.Store.Fault
import BeanDoc.Telemetry
import BeanDoc.Template.Arguments
import BeanDoc.Template.Context
import BeanDoc.Template.Double
import BeanDoc.Template.Eval
import BeanDoc.Template.Exec
import BeanDoc.Template.Expansion
import BeanDoc.Template.Fault
import BeanDoc.Template.Filter
import BeanDoc.Template.Filter.Basic
import BeanDoc.Template.Filter.Items
import BeanDoc.Template.FreeNames
import BeanDoc.Template.Function
import BeanDoc.Template.Names
import BeanDoc.Template.Operator
import BeanDoc.Template.Parser.Basic
import BeanDoc.Template.Parser.Expression
import BeanDoc.Template.Parser.Statement
import BeanDoc.Template.Reference
import BeanDoc.Template.Render
import BeanDoc.Template.Scope
import BeanDoc.Template.Test
import BeanDoc.Template.Token
import BeanDoc.Template.Token.Escape
import BeanDoc.Template.Token.Number
import BeanDoc.Template.Token.Scanner
import BeanDoc.Template.Tree
import BeanDoc.Template.Tree.Constant
import BeanDoc.Template.Value
import BeanDoc.Template.Value.Access
import BeanDoc.Template.Value.Arithmetic
import BeanDoc.Template.Value.Order
import BeanDoc.TemplateConfig
import BeanDoc.TemplateKind
import BeanDoc.Text.Alphabetic
import BeanDoc.Text.Blank
import BeanDoc.Text.CaseIgnorable
import BeanDoc.Text.Cased
import BeanDoc.Text.CharRun
import BeanDoc.Text.GraphemeExtend
import BeanDoc.Text.HexDigit
import BeanDoc.Text.Letter
import BeanDoc.Text.LowerMap
import BeanDoc.Text.Lowercase
import BeanDoc.Text.Numeric
import BeanDoc.Text.Octets
import BeanDoc.Text.Quoted
import BeanDoc.Text.Similarity
import BeanDoc.Text.Split
import BeanDoc.Text.Unprintable
import BeanDoc.Text.UpperMap
import BeanDoc.Text.Uppercase
import BeanDoc.Toml.Number
import BeanDoc.Toml.Quoted
import BeanDoc.Toml.Reader
import BeanDoc.Toml.Value
import BeanDoc.Proofs.OpenedDatabase
import BeanDoc.Proofs.StoreLaws
import BeanDoc.Proofs.AppliedDrafts
import BeanDoc.Proofs.EditingSession
import BeanDoc.Proofs.SavedTemplateFile
import BeanDoc.Proofs.JsonReadBack
import BeanDoc.Proofs.EditLines
import BeanDoc.Proofs.DryRun
import BeanDoc.Proofs.StoreSession
import BeanDoc.Proofs.DatabaseCalls
import BeanDoc.Proofs.AcceptedComment
import BeanDoc.Proofs.ClassFileReadBack
import BeanDoc.Proofs.CommentCharacters
import BeanDoc.Proofs.RepeatedLayout
import BeanDoc.Proofs.TemplateParts
import BeanDoc.Proofs.ExpansionSpans
import BeanDoc.Proofs.EscapedText
import BeanDoc.Proofs.FilledTemplate
import BeanDoc.Proofs.GeneratedEntries
import BeanDoc.Proofs.RunFailures
import BeanDoc.Proofs.DocumentCalls
import BeanDoc.Proofs.IndependentEdits
import BeanDoc.Proofs.AccessorRules
import BeanDoc.Proofs.DefaultTemplates
import BeanDoc.Proofs.PropertyNames
import BeanDoc.Proofs.OfferedMethods
import BeanDoc.Proofs.NamedMethods
import BeanDoc.Proofs.ReferencePositions
