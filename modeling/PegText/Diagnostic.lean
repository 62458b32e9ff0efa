import PegText.Source

/-!
What can go wrong in any phase, and how it is reported: a cause, where in which source it
happened, and a hint.
-/

namespace PegText

inductive Phase
  | grammar
  | parsing
  | transform
  | evaluation
  | hosting
  deriving DecidableEq

namespace Phase

def code : Phase → String
  | grammar => "grammar"
  | parsing => "parse"
  | transform => "transform"
  | evaluation => "eval"
  | hosting => "io"

def title : Phase → String
  | grammar => "Grammar error"
  | parsing => "Parse error"
  | transform => "Transform error"
  | evaluation => "Evaluation error"
  | hosting => "I/O error"

def label : Phase → String
  | grammar => "in this grammar"
  | parsing => "parsing stopped here"
  | transform => "while transforming this"
  | evaluation => "while evaluating this"
  | hosting => "here"

end Phase

inductive Cause
  | duplicateRule (rule : String)
  | undefinedRule (rule reference : String)
  | missingRoot (rule : String)
  | invalidClass (rule charClass reason : String)
  | duplicateCapture (rule capture : String)
  | leftRecursion (rule cycle : String)
  | unexpectedInput (expected found : String)
  | unknownRule (grammar rule : String)
  | nestingLimit (limit : Nat)
  | malformedBinding (rule subtree reason : String)
  | incompleteTransform (expected found : String)
  | treeDepthLimit (limit : Nat)
  | typeMismatch (expected actual : String)
  | unknownFunction (name : String)
  | overflow (operation : String)
  | recursionLimit (limit : Nat)
  | unusable (target reason : String)
  deriving DecidableEq

namespace Cause

def phase : Cause → Phase
  | duplicateRule .. | undefinedRule .. | missingRoot .. | invalidClass .. | duplicateCapture ..
  | leftRecursion .. => .grammar
  | unexpectedInput .. | unknownRule .. | nestingLimit .. => .parsing
  | malformedBinding .. | incompleteTransform .. | treeDepthLimit .. => .transform
  | typeMismatch .. | unknownFunction .. | overflow .. | recursionLimit .. => .evaluation
  | unusable .. => .hosting

def code : Cause → String
  | duplicateRule .. => "duplicate_rule"
  | undefinedRule .. => "undefined_rule"
  | missingRoot .. => "missing_root"
  | invalidClass .. => "invalid_class"
  | duplicateCapture .. => "duplicate_capture"
  | leftRecursion .. => "left_recursion"
  | unexpectedInput .. => "unexpected_input"
  | unknownRule .. => "unknown_rule"
  | nestingLimit .. => "nesting_limit"
  | malformedBinding .. => "malformed_binding"
  | incompleteTransform .. => "incomplete_transform"
  | treeDepthLimit .. => "tree_depth_limit"
  | typeMismatch .. => "type_mismatch"
  | unknownFunction .. => "unknown_function"
  | overflow .. => "overflow"
  | recursionLimit .. => "recursion_limit"
  | unusable .. => "io"

def message : Cause → String
  | duplicateRule rule => s!"rule '{rule}' is defined more than once"
  | undefinedRule rule reference => s!"rule '{rule}' references undefined rule '{reference}'"
  | missingRoot rule => s!"grammar has no rule named '{rule}' to use as root"
  | invalidClass rule charClass reason =>
      s!"rule '{rule}' has invalid character class '{charClass}': {reason}"
  | duplicateCapture rule capture =>
      s!"rule '{rule}' combines two captures named '{capture}' in one sequence"
  | leftRecursion rule cycle => s!"rule '{rule}' is left-recursive through {cycle}"
  | unexpectedInput expected found => s!"expected {expected}, found {found}"
  | unknownRule grammar rule => s!"grammar '{grammar}' has no rule named '{rule}'"
  | nestingLimit limit => s!"input nests more than {limit} levels deep"
  | malformedBinding rule subtree reason => s!"rule '{rule}' cannot build from {subtree}: {reason}"
  | incompleteTransform expected found => s!"transform left {found} where {expected} was required"
  | treeDepthLimit limit => s!"tree nests more than {limit} levels deep"
  | typeMismatch expected actual => s!"expected {expected}, got {actual}"
  | unknownFunction name => s!"unknown function '{name}'"
  | overflow operation => s!"integer overflow in '{operation}'"
  | recursionLimit limit => s!"recursion limit of {limit} exceeded"
  | unusable target reason => s!"cannot use {target}: {reason}"

end Cause

structure Place where
  source : Source
  span : Span
  deriving DecidableEq

structure Diagnostic where
  cause : Cause
  place : Option Place
  help : Option String
  deriving DecidableEq

namespace Diagnostic

def ofCause (cause : Cause) : Diagnostic := ⟨cause, none, none⟩

def inSource (diagnostic : Diagnostic) (source : Source) (span : Span) : Diagnostic :=
  { diagnostic with place := some ⟨source, span⟩ }

def withHelp (diagnostic : Diagnostic) (help : String) : Diagnostic :=
  { diagnostic with help := some help }

def locate (diagnostic : Diagnostic) : Option Source → Option Span → Diagnostic
  | some source, some span => diagnostic.inSource source span
  | _, _ => diagnostic

def phase (diagnostic : Diagnostic) : Phase := diagnostic.cause.phase

def code (diagnostic : Diagnostic) : String :=
  "weft::" ++ diagnostic.phase.code ++ "::" ++ diagnostic.cause.code

def message (diagnostic : Diagnostic) : String :=
  diagnostic.phase.title ++ ": " ++ diagnostic.cause.message

end Diagnostic

end PegText
