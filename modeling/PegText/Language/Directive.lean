import PegText.Grammar
import PegText.Language.Tokens

/-!
Directive blocks in free text. A block begins with the marker `:::` and two flags, `>` to show
and `-` to hide, for the command and for its result. A command name follows, then a list of
arguments in parentheses or else the rest of the line as one argument, without trailing blanks;
a parenthesis right behind the name must open a well-formed list. All text up to the next block
is the body.

The root yields a list of one `no_code` record and then a `code` record for each block, with
the captures `visibility`, `funcall`, `arglist` and `stdin`.
-/

namespace PegText.Language.Directive

open Matcher

def marker : String := ":::"

def draft : Grammar.Draft :=
  { name := "directive"
    root := some "document"
    maxNesting := Grammar.defaultMaxNesting
    rules :=
      [("document", rule "no_code" >>> (rule "code").atLeast 0),
       ("no_code", (rule "text").named "no_code"),
       ("code", (rule "start_command" >>> rule "command").named "code"),
       ("text", ((rule "start_command").absent >>> any).atLeast 0),
       ("space?", (charClass "\\s").atLeast 0),
       ("inline_space", (charClass "[ \t]").atLeast 1),
       ("newline", literal "\r\n" ||| literal "\n"),
       ("show", (literal ">").named "show"),
       ("hide", (literal "-").named "hide"),
       ("flag", rule "show" ||| rule "hide"),
       ("visibility", (rule "flag").named "command" >>> (rule "flag").named "result"),
       ("start_command",
        literal marker >>> (rule "visibility").named "visibility" >>> (rule "inline_space").maybe),
       ("command",
        rule "funcall" >>> (rule "args").named "arglist" >>> (rule "inline_space").maybe >>>
          (rule "newline").maybe >>> rule "stdin"),
       ("funcall", ((charClass "[^ \\t\\r\\n()]").atLeast 1).named "funcall"),
       ("stdin", (rule "text").named "stdin"),
       ("args",
        rule "paren_args" ||| ((literal "(").absent >>> (rule "line_args").maybe)),
       ("paren_args",
        literal "(" >>> rule "space?" >>> (rule "arglist" >>> rule "space?").maybe >>>
          literal ")"),
       ("line_args", rule "inline_space" >>> (rule "line_text").named "bare"),
       ("line_word", (charClass "[^ \\t\\r\\n]").atLeast 1),
       ("line_text",
        rule "line_word" >>> (rule "inline_space" >>> rule "line_word").atLeast 0),
       ("arglist",
        rule "arg" >>>
          (rule "space?" >>> literal "," >>> rule "space?" >>> rule "arg").atLeast 0),
       ("arg", rule "string" ||| rule "key_value" ||| rule "number" ||| rule "bare"),
       ("string", quoted '\'' ||| quoted '"'),
       ("integer", digits),
       ("number", rule "integer" >>> (rule "bare_char").absent),
       ("bare_char", charClass "[^\\s,()'\"]"),
       ("value", rule "string" ||| rule "integer"),
       ("key", ((charClass "[^\\s:(),'\"]").atLeast 1).named "key"),
       ("key_value",
        (rule "key" >>> literal ":" >>> (rule "inline_space").maybe >>>
          (rule "value").named "value").named "key_value"),
       ("bare", ((rule "bare_char").atLeast 1).named "bare")] }

def grammar : Grammar := draft.built

end PegText.Language.Directive
