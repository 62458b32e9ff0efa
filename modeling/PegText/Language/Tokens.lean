import PegText.Matcher

/-!
Tokens that several languages share.
-/

namespace PegText.Language

open Matcher

def blanks : Matcher := (charClass "\\s").atLeast 1

def quoted (quote : Char) : Matcher :=
  char quote >>> (((char quote).absent >>> any).atLeast 0).named "string" >>> char quote

def digits : Matcher := ((charClass "[0-9]").atLeast 1).named "int"

end PegText.Language
