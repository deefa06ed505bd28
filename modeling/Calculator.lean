import Calculator.Text.Space
import Calculator.Text.Numeric
import Calculator.Text.Printable
import Calculator.Text.Width
import Calculator.Number.Layout
import Calculator.Number.Numeral
import Calculator.Parse
import Calculator.Text.Utf8
import Calculator.Json.Read
import Calculator.Json.Write
import Calculator.Expr.Document
import Calculator.Environment
import Calculator.VariablesFile
import Calculator.Session
import Calculator.Terminal.Outline
import Calculator.Terminal.Grid
import Calculator.Terminal.Markup
import Calculator.CommandLine.Run
import Calculator.Main
import Calculator.Proofs.Lexemes
import Calculator.Proofs.Reduction
import Calculator.Proofs.Balance
import Calculator.Proofs.Grammar
import Calculator.Proofs.Scope
import Calculator.Proofs.Parse
import Calculator.Proofs.Places
import Calculator.Proofs.Diagnostics
import Calculator.Proofs.Number.Bits
import Calculator.Proofs.Number.Nearest
import Calculator.Proofs.Number.Rounding
import Calculator.Proofs.Number.Numeral
import Calculator.Proofs.Number.Scientific
import Calculator.Proofs.Number.Shortest
import Calculator.Proofs.Number.Literal
import Calculator.Proofs.Regroup
import Calculator.Proofs.RoundTrip
import Calculator.Proofs.NormalForm
import Calculator.Proofs.FirstFault
import Calculator.Proofs.Shift
import Calculator.Proofs.Substitution
import Calculator.Proofs.Naming
import Calculator.Proofs.Replacement
import Calculator.Proofs.Context
import Calculator.Proofs.Operands
import Calculator.Proofs.Brackets
import Calculator.Proofs.EmptyInput
import Calculator.Proofs.Resolution
import Calculator.Proofs.Dependence
import Calculator.Proofs.Session
import Calculator.Proofs.Text.Encoding
import Calculator.Proofs.Json.Grammar
import Calculator.Proofs.Json.Lexemes
import Calculator.Proofs.Json.Members
import Calculator.Proofs.Json.Writing
import Calculator.Proofs.Files
import Calculator.Proofs.Paths
import Calculator.Proofs.Loading
import Calculator.Proofs.Names
import Calculator.Proofs.History
import Calculator.Proofs.Saving
import Calculator.Proofs.OneMap
import Calculator.Proofs.CommandLine.Words
import Calculator.Proofs.CommandLine.Sources
import Calculator.Proofs.Wrapping
import Calculator.Proofs.CommandLine.Specialize
import Calculator.Proofs.CommandLine.Partial
import Calculator.Proofs.Loop
import Calculator.Proofs.Document
import Calculator.Proofs.CommandLine.Tree
import Calculator.Proofs.Independence
import Calculator.Proofs.Number.Scanning
import Calculator.Proofs.Caret
import Calculator.Proofs.Markup
import Calculator.Proofs.CommandLine.SavedMessage
import Calculator.Proofs.Passes
import Calculator.Proofs.Head
import Calculator.Proofs.Tape
import Calculator.Proofs.Extent
import Calculator.Proofs.Visible
