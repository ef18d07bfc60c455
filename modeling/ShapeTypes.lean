import ShapeTypes.Text.CodePoint
import ShapeTypes.Text.CodeSet
import ShapeTypes.Text.WordChar
import ShapeTypes.Text.Printable
import ShapeTypes.Text.UpperCase
import ShapeTypes.Text.Quoted
import ShapeTypes.Text.ControlSequence
import ShapeTypes.Text.Likeness
import ShapeTypes.Number.Double
import ShapeTypes.Number.Numeral
import ShapeTypes.Value.Basic
import ShapeTypes.Value.Display
import ShapeTypes.Value.Json
import ShapeTypes.Name.Pascal
import ShapeTypes.Traced
import ShapeTypes.Shape.Ignored
import ShapeTypes.Shape.OfValue
import ShapeTypes.Decl.Unique
import ShapeTypes.Decl.Source
import ShapeTypes.Config
import ShapeTypes.Shape.Declare
import ShapeTypes.Generator
import ShapeTypes.Session
import ShapeTypes.SourceCheck
import ShapeTypes.FileTree.Write
import ShapeTypes.CommandLine.Run
import ShapeTypes.Main
import ShapeTypes.Proofs.Lists
import ShapeTypes.Proofs.Failure
import ShapeTypes.Proofs.References
import ShapeTypes.Proofs.Regular
import ShapeTypes.Proofs.WellFormed
import ShapeTypes.Proofs.LiteralText
import ShapeTypes.Proofs.TypeText
import ShapeTypes.Proofs.Text.Quoted
import ShapeTypes.Proofs.Value.Json
import ShapeTypes.Proofs.Text.UpperCase
import ShapeTypes.Proofs.Shape.Tree
import ShapeTypes.Proofs.Shape.Success
import ShapeTypes.Proofs.Shape.Fields
import ShapeTypes.Proofs.Shape.Grounded
import ShapeTypes.Proofs.Shape.Expand
import ShapeTypes.Proofs.Decl.Unique
import ShapeTypes.Proofs.Form
import ShapeTypes.Proofs.Decl.Expand
import ShapeTypes.Proofs.Generator.Closed
import ShapeTypes.Proofs.Session
import ShapeTypes.Proofs.Number.Numeral
import ShapeTypes.Proofs.SourceCheck
import ShapeTypes.Proofs.SourceCheck.Literals
import ShapeTypes.Proofs.Decl.Source
import ShapeTypes.Proofs.Generator.Checked
import ShapeTypes.Proofs.Decl.Lines
import ShapeTypes.Proofs.Generator.Rendered
import ShapeTypes.Proofs.Text.Paragraphs
import ShapeTypes.Proofs.Generator.Faithful
import ShapeTypes.Proofs.Generator.RootArray
import ShapeTypes.Proofs.FileTree.Entry
import ShapeTypes.Proofs.FileTree.Walk
import ShapeTypes.Proofs.FileTree.Directories
import ShapeTypes.Proofs.FileTree.Replace
import ShapeTypes.Proofs.FileTree.Placing
import ShapeTypes.Proofs.FileTree.AllOrNothing
import ShapeTypes.Proofs.Name.Singular
import ShapeTypes.Proofs.Name.Identifier
import ShapeTypes.Proofs.Name.Element
import ShapeTypes.Proofs.Shape.PostOrder
import ShapeTypes.Proofs.Generator.Identifiers
import ShapeTypes.Proofs.Shape.Grammar
import ShapeTypes.Proofs.CommandLine.Places
import ShapeTypes.Proofs.CommandLine.Transaction
import ShapeTypes.Proofs.Shape.Faults
import ShapeTypes.Proofs.Shape.Overflow
import ShapeTypes.Proofs.Shape.Nameless
import ShapeTypes.Proofs.Shape.RootArray
import ShapeTypes.Proofs.Decl.LastBearer
import ShapeTypes.Proofs.Decl.Identity
import ShapeTypes.Proofs.Shape.Prune
import ShapeTypes.Proofs.Shape.Unread
import ShapeTypes.Proofs.FileTree.Upwards
import ShapeTypes.Proofs.FileTree.Growing
import ShapeTypes.Proofs.FileTree.Overwriting
import ShapeTypes.Proofs.Decl.Early
import ShapeTypes.Proofs.Shape.Named
import ShapeTypes.Proofs.Session.Early
import ShapeTypes.Proofs.Name.Distinct
import ShapeTypes.Proofs.Name.Pascal
import ShapeTypes.Proofs.CommandLine.RootName
import ShapeTypes.Proofs.Generator.Unnamed
import ShapeTypes.Proofs.Shape.Culprit
import ShapeTypes.Proofs.Number.Rounding
import ShapeTypes.Proofs.Number.Shortest
import ShapeTypes.Proofs.Number.Reading
import ShapeTypes.Proofs.Number.RoundTrip
import ShapeTypes.Proofs.LiteralValue
import ShapeTypes.Proofs.TypeReading
import ShapeTypes.Proofs.TypePrecedence
