import PegText.CommandLine.Arguments
import PegText.Datum.Json
import PegText.Datum.Yaml
import PegText.Document.Reading

/-!
What the commands print.
-/

namespace PegText.CommandLine

def render (format : Format) (datum : Datum) : String :=
  match format with
  | .json => Json.pretty datum
  | .yaml => Yaml.document datum

structure Report where
  output : String
  failure : Option Diagnostic

namespace Report

def ofOutput (output : String) : Report := ⟨output, none⟩

def ofResult : Except Diagnostic String → Report
  | .ok output => ofOutput output
  | .error diagnostic => ⟨"", some diagnostic⟩

def exitCode (report : Report) : Nat := if report.failure.isSome then 1 else 0

end Report

inductive Emphasis
  | result
  | text
  | directive

def plainSequence : String := "\x1b[0m"

def Emphasis.sequence : Emphasis → String
  | result => plainSequence ++ "\x1b[1m\x1b[32m"
  | text => plainSequence ++ "\x1b[2m"
  | directive => plainSequence ++ "\x1b[1m\x1b[33m"

def Emphasis.start (colour : Bool) (emphasis : Emphasis) (text : String) : String :=
  if colour then emphasis.sequence ++ text else text

def ended (colour : Bool) (text : String) : String :=
  if colour then text ++ plainSequence else text

def filler (width : Nat) (text : String) : String :=
  String.ofList (List.replicate (width - text.length) ' ')

def spanColumns (span : Span) : String :=
  let start := toString span.start
  let stop := toString span.stop
  filler 5 start ++ start ++ ".." ++ stop ++ filler 5 stop

def segmentLine (colour : Bool) : Segment → String
  | .text text span =>
      ended colour <|
        Emphasis.text.start colour
          (spanColumns span ++ " text      " ++ Quoted.text text ++ "\n")
  | .directive block =>
      let head :=
        ended colour <|
          Emphasis.directive.start colour
            (spanColumns block.span ++ " directive " ++ block.visibility.signs ++ " " ++
              block.name)
      ended colour
        (head ++ "(" ++ ", ".intercalate (block.arguments.map Argument.display) ++ ") body " ++
          Quoted.text block.body ++ "\n")

def segmentLines (colour : Bool) (document : Document) : String :=
  if document.segments.isEmpty then "(empty)\n"
  else String.join (document.segments.map (segmentLine colour))

def nameLines (names : List String) (root : Option String) : String :=
  if names.isEmpty then "  No items found.\n"
  else
    String.join (names.map fun name =>
      "  " ++ name ++ (if root = some name then " (root)\n" else "\n"))

def trimEnd (text : String) : String :=
  String.ofList (text.toList.reverse.dropWhile isWhiteSpace).reverse

def parsed (language : Language) (rule : Option String) (transform : Bool) (source : Source) :
    Except Diagnostic Datum := do
  match language, rule, transform with
  | .directive, none, true => return (← Document.parseSource source).datum
  | _, _, _ =>
      let capture ← language.grammar.parseSource rule source
      match language, transform with
      | .arguments, true =>
          let tree ←
            Language.Arguments.ruleset.applyCapture ⟨some source, Empty.elim⟩ capture
          return tree.datum Empty.elim
      | .expression, true =>
          let tree ←
            Language.Expression.ruleset.applyCapture (Language.Expression.setting (some source))
              capture
          return tree.datum Expr.datum
      | _, _ => return capture.datum

def evaluated (colour : Bool) (limits : Interpreter.Limits) (expr : String) : Report :=
  match Interpreter.run expr limits with
  | (result, emitted) =>
      let output := String.join (emitted.map (· ++ "\n"))
      match result with
      | .error diagnostic => ⟨output, some diagnostic⟩
      | .ok value =>
          .ofOutput (output ++
            ended colour (Emphasis.result.start colour ("Result: " ++ value.display ++ "\n")))

namespace Command

def file? : Command → Option String
  | parse _ _ _ _ file => some file
  | scan file => some file
  | _ => none

def source (file : String) (content : Except String String) : Except Diagnostic Source :=
  match content with
  | .ok text => .ok ⟨if file = "-" then "<stdin>" else file, text⟩
  | .error reason => .error (.ofCause (.unusable file reason))

def run (colour : Bool) (content : Except String String) : Command → Report
  | parse language rule transform format file =>
      .ofResult do
        let datum ← parsed language rule transform (← source file content)
        return trimEnd (render format datum) ++ "\n"
  | eval limits expr => evaluated colour limits expr
  | scan file =>
      .ofResult do
        return segmentLines colour (← Document.parseSource (← source file content))
  | rules language =>
      .ofOutput (nameLines (language.grammar.ruleNames.mergeSort (· ≤ ·))
        (some language.grammar.rootName))
  | listBuiltins => .ofOutput (nameLines Registry.standard.names none)

end Command

def versionLine : String := "weft 0.1.0\n"

end PegText.CommandLine
