import PegText.Main
import PegText.Transcript
import PegText.Proofs.Parse.Nesting
import PegText.Proofs.Document.Tiling
import PegText.Proofs.Grammar.Renaming
import PegText.Proofs.Grammar.Order
import PegText.Proofs.Parse.Order
import PegText.Proofs.Parse.Exact
import PegText.Proofs.Parse.Scan
import PegText.Proofs.CharClass.Classes
import PegText.Proofs.Language.Expression
import PegText.Proofs.Language.Phrase
import PegText.Proofs.Language.Spelling
import PegText.Proofs.Language.Reading
import PegText.Proofs.Parse.Depth
import PegText.Proofs.Language.Argument
import PegText.Proofs.Language.ArgumentList
import PegText.Proofs.Language.Layout
import PegText.Proofs.Language.Scanning
import PegText.Proofs.Document.Reading
import PegText.Proofs.Document.Composition
import PegText.Proofs.Document.Writing
import PegText.Proofs.Parse.Calls
import PegText.Proofs.Parse.Simulation
import PegText.Proofs.Parse.Semantics
import PegText.Proofs.Parse.Faithful
import PegText.Proofs.Parse.Limits
import PegText.Proofs.Document.Refusal
import PegText.Proofs.Interpreter
import PegText.Proofs.Language.HashReading
import PegText.Proofs.Language.Printing
import PegText.Proofs.Parse.Report
import PegText.Proofs.Evaluation.Meaning
import PegText.Proofs.Tree.Placeholders
import PegText.Proofs.Document.Words
import PegText.Proofs.Grammar.LeftRecursion
import PegText.Proofs.Parse.Shift
import PegText.Proofs.Tree.Rewriting
import PegText.Proofs.Parse.Kinds
import PegText.Proofs.Evaluation.Sums
import PegText.Proofs.Document.RestOfLine
import PegText.Proofs.Language.SumNesting
import PegText.Proofs.Document.Oversized
import PegText.Proofs.Tree.Conversion
import PegText.Proofs.Value
import PegText.Proofs.Datum
import PegText.Proofs.Transcript
import PegText.Proofs.Parse.Flattening
