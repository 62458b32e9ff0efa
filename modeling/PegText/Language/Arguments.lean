import PegText.Grammar
import PegText.Language.Tokens
import PegText.Tree.Ruleset

/-!
Hash objects such as `{ hello: "world", n: 3 }`: a list of keys with values, read into a record
that maps each key to its value.
-/

namespace PegText.Language.Arguments

open Matcher

def draft : Grammar.Draft :=
  { name := "arguments"
    root := some "hash_obj"
    maxNesting := Grammar.defaultMaxNesting
    rules :=
      [("spaces", blanks),
       ("spaces?", (rule "spaces").maybe),
       ("comma", rule "spaces?" >>> literal "," >>> rule "spaces?"),
       ("string", quoted '"' ||| quoted '\''),
       ("integer", digits),
       ("value", rule "string" ||| rule "integer"),
       ("key",
        rule "spaces?" >>> ((charClass "[^\\s:]").atLeast 1).named "key" >>> literal ":" >>>
          rule "spaces?"),
       ("key_value",
        (rule "key" >>> (rule "value").named "val").named "key_value" >>> rule "spaces?"),
       ("named_args",
        rule "spaces?" >>>
          (rule "key_value" >>> (rule "comma" >>> rule "key_value").atLeast 0).named
            "named_args" >>>
          rule "spaces?"),
       ("hash_obj",
        rule "spaces?" >>> literal "\x7b" >>> rule "named_args" >>> literal "\x7d" >>>
          rule "spaces?")] }

def grammar : Grammar := draft.built

abbrev Plain := Empty

def keyValue (argument : Tree Plain) : Except BindingError (String × Tree Plain) :=
  let shape : Shape :=
    .record [("key_value", .record [("key", .simple "key"), ("val", .subtree "val")])]
  match shape.match? argument with
  | none => .error (.shape "args" "key_value record" argument.kind)
  | some bindings =>
      let build : Builder Plain (String × Tree Plain) := do
        let key ← Builder.text "key"
        return (key, ← Builder.takeTree "val")
      (build.run bindings).1

def collect (entries : List (String × Tree Plain)) :
    List (Tree Plain) → Except BindingError (List (String × Tree Plain))
  | [] => .ok entries
  | argument :: rest =>
      match keyValue argument with
      | .error error => .error error
      | .ok (key, value) =>
          if Entries.contains key entries then
            .error (.invalid s!"key '{key}' is given more than once")
          else collect (Entries.insert key value entries) rest

def ruleset : Ruleset Plain :=
  .ofRules
    [⟨"string", .record [("string", .simple "s")], Builder.takeTree "s"⟩,
     ⟨"integer", .record [("int", .simple "i")], Builder.takeTree "i"⟩,
     ⟨"named_args", .record [("named_args", .subtree "args")], do
        let arguments :=
          match ← Builder.takeTree "args" with
          | .list items => items
          | single => [single]
        match collect [] arguments with
        | .ok entries => return .record entries
        | .error error => throw error⟩]

end PegText.Language.Arguments
