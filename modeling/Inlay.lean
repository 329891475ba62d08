import Inlay.Command.Arguments
import Inlay.Command.Run
import Inlay.Data.Printer
import Inlay.Data.Reader
import Inlay.Data.Value
import Inlay.Decimal.Reader
import Inlay.Decimal.Shortest
import Inlay.Dispatch.Action
import Inlay.Dispatch.Cache
import Inlay.Dispatch.Dispatcher
import Inlay.Dispatch.Options
import Inlay.Dispatch.Reference
import Inlay.Dispatch.Rendered
import Inlay.Dispatch.Settings
import Inlay.Document.Basic
import Inlay.Document.Element
import Inlay.Document.Graft
import Inlay.Document.Selection
import Inlay.Document.Writer
import Inlay.Files.Basic
import Inlay.Files.Folder
import Inlay.Files.Loader
import Inlay.Grammar.Pattern
import Inlay.Main
import Inlay.Markup.Construction.Body
import Inlay.Markup.Construction.Foreign
import Inlay.Markup.Construction.Formatting
import Inlay.Markup.Construction.Head
import Inlay.Markup.Construction.Outer
import Inlay.Markup.Construction.State
import Inlay.Markup.Construction.Table
import Inlay.Markup.Draft
import Inlay.Markup.Layout
import Inlay.Markup.Lexer
import Inlay.Markup.Lexer.Declaration
import Inlay.Markup.Lexer.RawText
import Inlay.Markup.Lexer.Tag
import Inlay.Markup.Names
import Inlay.Markup.Parse
import Inlay.Markup.Reference
import Inlay.Markup.Reference.Names
import Inlay.Markup.Token
import Inlay.Markup.Tree
import Inlay.Proofs.Command.Rendering
import Inlay.Proofs.Dispatch.Cache
import Inlay.Proofs.Dispatch.Call
import Inlay.Proofs.Dispatch.Changes
import Inlay.Proofs.Dispatch.Coherence
import Inlay.Proofs.Dispatch.Commuting
import Inlay.Proofs.Dispatch.Container
import Inlay.Proofs.Dispatch.Containers
import Inlay.Proofs.Dispatch.Effect
import Inlay.Proofs.Dispatch.Failure
import Inlay.Proofs.Dispatch.Locality
import Inlay.Proofs.Dispatch.Log
import Inlay.Proofs.Dispatch.MissingSource
import Inlay.Proofs.Dispatch.OneShot
import Inlay.Proofs.Dispatch.Operations
import Inlay.Proofs.Dispatch.Preset
import Inlay.Proofs.Dispatch.Reachable
import Inlay.Proofs.Dispatch.Recorded
import Inlay.Proofs.Dispatch.Refilling
import Inlay.Proofs.Dispatch.Removal
import Inlay.Proofs.Dispatch.Replacing
import Inlay.Proofs.Dispatch.Run
import Inlay.Proofs.Dispatch.Safety
import Inlay.Proofs.Dispatch.Unseen
import Inlay.Proofs.Document.Alike
import Inlay.Proofs.Document.Attributes
import Inlay.Proofs.Document.Content
import Inlay.Proofs.Document.Copy
import Inlay.Proofs.Document.Forest
import Inlay.Proofs.Document.Frame
import Inlay.Proofs.Document.Growth
import Inlay.Proofs.Document.Moving
import Inlay.Proofs.Document.Pairing
import Inlay.Proofs.Document.Pieces
import Inlay.Proofs.Document.Preorder
import Inlay.Proofs.Document.Receiving
import Inlay.Proofs.Document.Roles
import Inlay.Proofs.Document.Safety
import Inlay.Proofs.Document.Shape
import Inlay.Proofs.Document.Subtree
import Inlay.Proofs.Markup.Escaping
import Inlay.Proofs.Selector.Acceptance
import Inlay.Proofs.Selector.Conjunction
import Inlay.Proofs.Selector.Expectation
import Inlay.Proofs.Selector.Grammar
import Inlay.Proofs.Selector.Lexemes
import Inlay.Proofs.Selector.Matching
import Inlay.Proofs.Selector.Refusal
import Inlay.Proofs.Selector.Safety
import Inlay.Proofs.Selector.Scope
import Inlay.Proofs.Selector.Sentences
import Inlay.Proofs.Template.Numbering
import Inlay.Proofs.Template.Span
import Inlay.Selector.Basic
import Inlay.Selector.Reader
import Inlay.Selector.Token
import Inlay.Template.Assembly
import Inlay.Template.Basic
import Inlay.Template.Compiled
import Inlay.Template.Error
import Inlay.Template.Grammar
import Inlay.Template.Helper
import Inlay.Template.Render
import Inlay.Template.Report
import Inlay.Template.Scope
import Inlay.Template.Shown
import Inlay.Text.Blank
import Inlay.Text.Case
import Inlay.Text.Hexadecimal
import Inlay.Text.Printable
import Inlay.Text.Quoted
import Inlay.Text.Width
import Inlay.Toml.Numbers
import Inlay.Toml.Place
import Inlay.Toml.Read
import Inlay.Toml.Reader
import Inlay.Toml.Strings
import Inlay.Toml.Table
