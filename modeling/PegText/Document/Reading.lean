import PegText.Document
import PegText.Language.Directive
import PegText.Language.Expression
import PegText.Parse
import PegText.Tree.Ruleset

/-!
Reading a document: its parse tree is reduced to segments, and the segments are put in their
places. A directive begins at its marker, which is not captured; it is where the segment in front
ends.
-/

namespace PegText

inductive Part
  | flag (content : Flag)
  | visibility (content : Visibility)
  | argument (content : Argument)
  | segment (content : Segment)
  deriving DecidableEq

namespace Part

def kind : Part → String
  | flag _ => "flag"
  | visibility _ => "visibility"
  | argument _ => "argument"
  | segment _ => "segment"

def display : Part → String
  | flag content => String.singleton content.sign
  | visibility content => content.signs
  | argument content => content.describe
  | segment (.text text _) => Quoted.text text
  | segment (.directive block) => "directive " ++ block.name

def wrong {α : Type} (name expected : String) (found : Part) : Builder Part α :=
  throw (.shape name expected found.kind)

def takeFlag (name : String) : Builder Part Flag := do
  match ← Builder.takeValue name with
  | .flag content => return content
  | other => wrong name "flag" other

def takeVisibility (name : String) : Builder Part Visibility := do
  match ← Builder.takeValue name with
  | .visibility content => return content
  | other => wrong name "visibility" other

def asArgument : Part → Builder Part Argument
  | .argument content => return content
  | other => wrong "args" "argument" other

def asArguments : List Part → Builder Part (List Argument)
  | [] => return []
  | part :: rest => return (← asArgument part) :: (← asArguments rest)

def ruleset : Ruleset Part :=
  .ofRules
    [⟨"show", .record [("show", .simple "f")], return .value (.flag .visible)⟩,
     ⟨"hide", .record [("hide", .simple "f")], return .value (.flag .hidden)⟩,
     ⟨"visibility",
      .record [("command", .simple "command"), ("result", .simple "result")], do
        let command ← takeFlag "command"
        let result ← takeFlag "result"
        return .value (.visibility ⟨command, result⟩)⟩,
     ⟨"string", .record [("string", .simple "s")], do
        return .value (.argument (.str (← Builder.text "s")))⟩,
     ⟨"int", .record [("int", .simple "i")], do
        let number ← Language.Expression.readInteger (← Builder.text "i")
        return .value (.argument (.int number))⟩,
     ⟨"bare", .record [("bare", .simple "b")], do
        return .value (.argument (.bare (← Builder.text "b")))⟩,
     ⟨"key_value",
      .record [("key_value", .record [("key", .simple "key"), ("value", .simple "value")])], do
        let key ← Builder.text "key"
        let value ← asArgument (← Builder.takeValue "value")
        return .value (.argument (.keyValue key value))⟩,
     ⟨"no_code", .record [("no_code", .simple "text")], do
        let slice ← Builder.slice "text"
        return .value (.segment (.text slice.text slice.span))⟩,
     ⟨"code",
      .record
        [("code",
          .record
            [("visibility", .simple "visibility"), ("funcall", .simple "name"),
             ("arglist", .sequence "args"), ("stdin", .simple "body")])], do
        let name ← Builder.slice "name"
        let body ← Builder.slice "body"
        let visibility ← takeVisibility "visibility"
        let arguments ← asArguments (← Builder.takeValues "args")
        return .value (.segment (.directive
          { name := name.text
            arguments := arguments
            visibility := visibility
            body := body.text
            span := ⟨name.span.start, body.span.stop⟩ }))⟩]

end Part

namespace Document

def segmentOf (tree : Tree Part) : Except Diagnostic Segment :=
  match tree.value? with
  | .error diagnostic => .error diagnostic
  | .ok (.segment segment) => .ok segment
  | .ok other => .error (.ofCause (.incompleteTransform "a segment" other.kind))

def tile (offset : Nat) : List (Tree Part) → Except Diagnostic (List Segment)
  | [] => .ok []
  | tree :: rest =>
      match segmentOf tree with
      | .error diagnostic => .error diagnostic
      | .ok segment =>
          let segment := segment.startingAt offset
          match tile segment.span.stop rest with
          | .error diagnostic => .error diagnostic
          | .ok segments =>
              .ok (if segment.isEmptyText then segments else segment :: segments)

def partsOf : Tree Part → List (Tree Part)
  | .list items => items
  | tree => [tree]

def parseSource (source : Source) : Except Diagnostic Document := do
  let capture ← Language.Directive.grammar.parseSource none source
  let tree ← Part.ruleset.applyCapture ⟨some source, Part.display⟩ capture
  let segments ← tile 0 (partsOf tree)
  return ⟨source.text, segments⟩

def parse (text : String) : Except Diagnostic Document := parseSource (.ofInput text)

end Document

end PegText
