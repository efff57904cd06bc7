import Routebook.Binary64
import Routebook.CommandLine
import Routebook.CommandLine.Arguments
import Routebook.Decimal
import Routebook.Document
import Routebook.Document.Operation
import Routebook.Document.Response
import Routebook.Document.SchemaObject
import Routebook.Document.SchemaReader
import Routebook.Expansion
import Routebook.FileTree
import Routebook.Filter
import Routebook.Json
import Routebook.Json.Reader
import Routebook.Json.Writer
import Routebook.Keyed
import Routebook.Main
import Routebook.Method
import Routebook.Notes
import Routebook.Notes.Block
import Routebook.Notes.Cache
import Routebook.Notes.Directive
import Routebook.Options
import Routebook.Options.Reader
import Routebook.Parameter
import Routebook.Path
import Routebook.Project
import Routebook.Proofs.Catalog.Definitions
import Routebook.Proofs.Catalog.Names
import Routebook.Proofs.Catalog.Rule
import Routebook.Proofs.Catalog.Secrets
import Routebook.Proofs.Catalog.Seeds
import Routebook.Proofs.Document.Assembly
import Routebook.Proofs.Document.Authored
import Routebook.Proofs.Document.Outline
import Routebook.Proofs.Document.Placeholders
import Routebook.Proofs.Document.Seeds
import Routebook.Proofs.Document.Tags
import Routebook.Proofs.Entries
import Routebook.Proofs.EntriesRel
import Routebook.Proofs.Expansion.Appended
import Routebook.Proofs.Expansion.Cap
import Routebook.Proofs.Expansion.Chain
import Routebook.Proofs.Expansion.Components
import Routebook.Proofs.Expansion.Drawing
import Routebook.Proofs.Expansion.Ending
import Routebook.Proofs.Expansion.Growth
import Routebook.Proofs.Expansion.Hops
import Routebook.Proofs.Expansion.Reach
import Routebook.Proofs.Expansion.Secrets
import Routebook.Proofs.Expansion.Seeds
import Routebook.Proofs.Expansion.Step
import Routebook.Proofs.Expansion.Visibility
import Routebook.Proofs.Json.Alike
import Routebook.Proofs.Json.Condensed
import Routebook.Proofs.Json.Numerals
import Routebook.Proofs.Json.Place
import Routebook.Proofs.Json.Written
import Routebook.Proofs.Notes.Bodies
import Routebook.Proofs.Notes.Comments
import Routebook.Proofs.Notes.Gathering
import Routebook.Proofs.Notes.Headers
import Routebook.Proofs.Notes.Inline
import Routebook.Proofs.Notes.Lines
import Routebook.Proofs.Notes.Method
import Routebook.Proofs.Notes.Mistakes
import Routebook.Proofs.Notes.Parts
import Routebook.Proofs.Notes.Remarks
import Routebook.Proofs.Notes.Session
import Routebook.Proofs.Notes.Tags
import Routebook.Proofs.Path
import Routebook.Proofs.Project.Files
import Routebook.Proofs.Project.Sources
import Routebook.Proofs.Route.Handlers
import Routebook.Proofs.Route.Methods
import Routebook.Proofs.Route.Patterns
import Routebook.Proofs.Source.Decorators
import Routebook.Proofs.Source.Decorators.Leading
import Routebook.Proofs.Source.Decorators.Scan
import Routebook.Proofs.Source.Fields
import Routebook.Proofs.Source.Hidden
import Routebook.Proofs.Source.Hints
import Routebook.Proofs.Source.Interfaces
import Routebook.Proofs.Source.LogicalLines
import Routebook.Proofs.Source.Members
import Routebook.Proofs.Source.Samples
import Routebook.Proofs.Text.Class
import Routebook.Proofs.Text.Cut
import Routebook.Proofs.Text.Order
import Routebook.Proofs.Text.Pieces
import Routebook.Proofs.Text.Trim
import Routebook.Proofs.Token
import Routebook.Proofs.Token.First
import Routebook.RandomStream
import Routebook.Route
import Routebook.Route.Entry
import Routebook.Route.Handler
import Routebook.Schema
import Routebook.Schema.Catalog
import Routebook.Schema.Convention
import Routebook.Schema.Sample
import Routebook.Source.Decorator
import Routebook.Source.InterfaceText
import Routebook.Source.ModelText
import Routebook.Source.TypeText
import Routebook.Text.Casing
import Routebook.Text.Class
import Routebook.Text.Cut
import Routebook.Text.Numeral
import Routebook.Text.Tables
import Routebook.Token
import Routebook.Tree
import Routebook.Yaml.Anchors
import Routebook.Yaml.Cursor
import Routebook.Yaml.Lexer
import Routebook.Yaml.Node
import Routebook.Yaml.Reader
import Routebook.Yaml.Scalar
import Routebook.Yaml.ScalarText
import Routebook.Yaml.Tag
import Routebook.Yaml.Token
import Routebook.Yaml.Writer
