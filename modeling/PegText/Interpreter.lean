import PegText.Evaluation
import PegText.Language.Expression

/-!
From the text of an expression to its value.
-/

namespace PegText.Interpreter

structure Limits where
  maxDepth : Nat
  maxNesting : Nat
  deriving DecidableEq

def Limits.standard : Limits := ⟨Evaluation.defaultMaxDepth, Grammar.defaultMaxNesting⟩

def run (text : String) (limits : Limits) : Except Diagnostic Value × List String :=
  let source := Source.ofInput text
  match Language.Expression.parseNested source limits.maxNesting with
  | .error diagnostic => (.error diagnostic, [])
  | .ok expr =>
      match Evaluation.evaluate ⟨.standard, some source, limits.maxDepth⟩ expr .initial with
      | (result, state) => (result, state.emitted)

end PegText.Interpreter
