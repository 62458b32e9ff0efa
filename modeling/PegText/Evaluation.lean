import PegText.Builtins
import PegText.Expr

/-!
Evaluation of expressions. Additions and arguments go from left to right, the first error ends
all, and a function has to be known before its arguments are looked at. Nothing but the texts
that built-ins emit is visible from outside.
-/

namespace PegText

namespace Evaluation

def defaultMaxDepth : Nat := 1000

structure Setting where
  registry : Registry
  source : Option Source
  maxDepth : Nat

structure State where
  depth : Nat
  emitted : List String
  deriving DecidableEq

def State.initial : State := ⟨0, []⟩

def Setting.report (setting : Setting) (cause : Cause) (span : Option Span) : Diagnostic :=
  let diagnostic := Diagnostic.ofCause cause
  let diagnostic :=
    match cause with
    | .unknownFunction _ =>
        diagnostic.withHelp ("available functions: " ++ ", ".intercalate setting.registry.names)
    | _ => diagnostic
  match setting.source with
  | some source => diagnostic.inSource source (span.getD source.span)
  | none => diagnostic

abbrev Result (α : Type) := Except Diagnostic α × State

def Setting.fail {α : Type} (setting : Setting) (cause : Cause) (state : State) : Result α :=
  (.error (setting.report cause none), state)

def Setting.deeper {α : Type} (setting : Setting) (step : State → Result α) (state : State) :
    Result α :=
  if setting.maxDepth ≤ state.depth then setting.fail (.recursionLimit setting.maxDepth) state
  else
    match step { state with depth := state.depth + 1 } with
    | (result, state) => (result, { state with depth := state.depth - 1 })

def Setting.add (setting : Setting) (left right : Value) (state : State) : Result Value :=
  match left, right with
  | .int first, .int second =>
      match checkedSum? first second with
      | some sum => (.ok (.int sum), state)
      | none =>
          setting.fail (.overflow (toString first.toInt ++ " + " ++ toString second.toInt)) state
  | .int _, other => setting.fail (.typeMismatch "integer" other.kind) state
  | other, _ => setting.fail (.typeMismatch "integer" other.kind) state

def call (builtin : Builtin) (arguments : List Value) (state : State) : Result Value :=
  match builtin arguments with
  | (texts, result) => (result, { state with emitted := state.emitted ++ texts })

mutual

def evaluate (setting : Setting) : Expr → State → Result Value
  | .int number => setting.deeper fun state => (.ok (.int number), state)
  | .str text => setting.deeper fun state => (.ok (.str text), state)
  | .add left right => setting.deeper fun state =>
      match evaluate setting left state with
      | (.error diagnostic, state) => (.error diagnostic, state)
      | (.ok left, state) =>
          match evaluate setting right state with
          | (.error diagnostic, state) => (.error diagnostic, state)
          | (.ok right, state) => setting.add left right state
  | .call name arguments => setting.deeper fun state =>
      match setting.registry.find? name with
      | none => setting.fail (.unknownFunction name) state
      | some builtin =>
          match evaluateAll setting arguments state with
          | (.error diagnostic, state) => (.error diagnostic, state)
          | (.ok values, state) => call builtin values state

def evaluateAll (setting : Setting) : List Expr → State → Result (List Value)
  | [], state => (.ok [], state)
  | expr :: rest, state =>
      match evaluate setting expr state with
      | (.error diagnostic, state) => (.error diagnostic, state)
      | (.ok value, state) =>
          match evaluateAll setting rest state with
          | (.error diagnostic, state) => (.error diagnostic, state)
          | (.ok values, state) => (.ok (value :: values), state)

end

end Evaluation

def Expr.eval (expr : Expr) : Evaluation.Result Value :=
  Evaluation.evaluate ⟨.standard, none, Evaluation.defaultMaxDepth⟩ expr .initial

end PegText
