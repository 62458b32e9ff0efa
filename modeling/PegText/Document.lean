import PegText.Datum
import PegText.Source
import PegText.Text.Cursor

/-!
Documents: a source text cut into plain text and directive blocks. The span of a directive goes
from its marker to the end of its body.
-/

namespace PegText

inductive Flag
  | visible
  | hidden
  deriving DecidableEq

namespace Flag

def sign : Flag → Char
  | visible => '>'
  | hidden => '-'

def datum : Flag → Datum
  | visible => .str "show"
  | hidden => .str "hide"

end Flag

structure Visibility where
  command : Flag
  result : Flag
  deriving DecidableEq

namespace Visibility

def showsCommand (visibility : Visibility) : Bool := visibility.command == .visible

def showsResult (visibility : Visibility) : Bool := visibility.result == .visible

def signs (visibility : Visibility) : String :=
  String.ofList [visibility.command.sign, visibility.result.sign]

def datum (visibility : Visibility) : Datum :=
  .map [("command", visibility.command.datum), ("result", visibility.result.datum)]

end Visibility

inductive Argument
  | str (text : String)
  | int (number : Int64)
  | bare (text : String)
  | keyValue (key : String) (value : Argument)
  deriving DecidableEq

namespace Argument

def display : Argument → String
  | str text => Quoted.text text
  | int number => toString number.toInt
  | bare text => text
  | keyValue key value => key ++ ": " ++ value.display

def describe : Argument → String
  | str text => "Str(" ++ Quoted.text text ++ ")"
  | int number => "Int(" ++ toString number.toInt ++ ")"
  | bare text => "Bare(" ++ Quoted.text text ++ ")"
  | keyValue key value =>
      "KeyValue \x7b key: " ++ Quoted.text key ++ ", value: " ++ value.describe ++ " \x7d"

def datum : Argument → Datum
  | str text => .variant "str" (.str text)
  | int number => .variant "int" (.int number.toInt)
  | bare text => .variant "bare" (.str text)
  | keyValue key value => .variant "key_value" (.map [("key", .str key), ("value", value.datum)])

end Argument

structure Directive where
  name : String
  arguments : List Argument
  visibility : Visibility
  body : String
  span : Span
  deriving DecidableEq

def Directive.datum (directive : Directive) : Datum :=
  .map
    [("name", .str directive.name),
     ("arguments", .list (directive.arguments.map Argument.datum)),
     ("visibility", directive.visibility.datum),
     ("body", .str directive.body),
     ("span", directive.span.datum)]

inductive Segment
  | text (text : String) (span : Span)
  | directive (block : Directive)
  deriving DecidableEq

namespace Segment

def span : Segment → Span
  | text _ span => span
  | directive block => block.span

def startingAt (start : Nat) : Segment → Segment
  | text content span => text content ⟨start, span.stop⟩
  | directive block => directive { block with span := ⟨start, block.span.stop⟩ }

def shift (bytes : Nat) : Segment → Segment
  | text content span => text content (span.shift bytes)
  | directive block => directive { block with span := block.span.shift bytes }

def isEmptyText : Segment → Bool
  | text content _ => content.isEmpty
  | directive _ => false

def directive? : Segment → Option Directive
  | text _ _ => none
  | directive block => some block

def datum : Segment → Datum
  | text content span => .variant "text" (.map [("text", .str content), ("span", span.datum)])
  | directive block => .variant "directive" block.datum

end Segment

structure Document where
  source : String
  segments : List Segment
  deriving DecidableEq

namespace Document

def directives (document : Document) : List Directive :=
  document.segments.filterMap Segment.directive?

def textAt (document : Document) (span : Span) : String :=
  let start := (Cursor.start document.source).advance span.start
  (start.sliceTo (start.advance (span.stop - span.start))).text

def textOf (document : Document) (segment : Segment) : String := document.textAt segment.span

def reconstruct (document : Document) : String :=
  String.join (document.segments.map document.textOf)

def datum (document : Document) : Datum :=
  .map [("segments", .list (document.segments.map Segment.datum))]

end Document

end PegText
