import PegText.Expr
import PegText.Language.Tokens
import PegText.Parse
import PegText.Text.Integer
import PegText.Tree.Ruleset

/-!
Integer sums and function calls such as `puts(1, 2, 4 + 5, 'there')`. Sums group to the right,
and any expression may be an argument.
-/

namespace PegText.Language.Expression

open Matcher

def draft : Grammar.Draft :=
  { name := "expression"
    root := some "expression"
    maxNesting := Grammar.defaultMaxNesting
    rules :=
      [("expression", rule "funcall" ||| rule "sum" ||| rule "string" ||| rule "integer"),
       ("space", blanks),
       ("space?", (rule "space").maybe),
       ("lparen", literal "(" >>> rule "space?"),
       ("rparen", literal ")" >>> rule "space?"),
       ("comma", rule "space?" >>> literal "," >>> rule "space?"),
       ("integer", digits >>> rule "space?"),
       ("string", (quoted '\'' ||| quoted '"') >>> rule "space?"),
       ("identifier", (charClass "[a-z_]").atLeast 1),
       ("operator", (literal "+").named "op" >>> rule "space?"),
       ("sum",
        (rule "integer").named "left" >>> rule "operator" >>> (rule "expression").named "right"),
       ("arglist", rule "expression" >>> (rule "comma" >>> rule "expression").atLeast 0),
       ("funcall",
        (rule "identifier").named "funcall" >>> rule "lparen" >>>
          (rule "arglist").maybe.named "arglist" >>> rule "rparen")] }

def grammar : Grammar := draft.built

def readInteger (text : String) : Except BindingError Int64 :=
  match Integer.read text with
  | .ok number => .ok number
  | .error error => .error (.invalid s!"'{text}' is not a 64-bit integer: {error.message}")

def ruleset : Ruleset Expr :=
  .ofRules
    [⟨"int", .record [("int", .simple "int")], do
        return .value (.int (← readInteger (← Builder.text "int")))⟩,
     ⟨"string", .record [("string", .simple "s")], do
        return .value (.str (← Builder.text "s"))⟩,
     ⟨"addition",
      .record [("left", .simple "left"), ("op", .exact "+"), ("right", .simple "right")], do
        let left ← Builder.takeValue "left"
        let right ← Builder.takeValue "right"
        return .value (.add left right)⟩,
     ⟨"funcall", .record [("funcall", .simple "name"), ("arglist", .sequence "args")], do
        let name ← Builder.text "name"
        let arguments ← Builder.takeValues "args"
        return .value (.call name arguments)⟩]

def setting (source : Option Source) : Ruleset.Setting Expr := ⟨source, Expr.pretty⟩

def parseNested (source : Source) (limit : Nat) : Except Diagnostic Expr := do
  let capture ← grammar.parseNested none source limit
  let tree ← ruleset.applyCapture (setting (some source)) capture
  tree.value?

def parseSource (source : Source) : Except Diagnostic Expr :=
  parseNested source Grammar.defaultMaxNesting

end PegText.Language.Expression
