import PegText.Language.Arguments
import PegText.Language.Directive
import PegText.Language.Expression

/-!
The languages that come with the library.
-/

namespace PegText

inductive Language
  | arguments
  | directive
  | expression
  deriving DecidableEq

namespace Language

def all : List Language := [arguments, directive, expression]

def name : Language → String
  | arguments => "arguments"
  | directive => "directive"
  | expression => "expression"

def ofName? (name : String) : Option Language := all.find? fun language => language.name == name

def grammar : Language → Grammar
  | arguments => Arguments.grammar
  | directive => Directive.grammar
  | expression => Expression.grammar

end Language

end PegText
