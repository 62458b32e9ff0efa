import PegText.Source
import PegText.Tree.Shape

/-!
Rulesets reduce a tree bottom-up: the children of a node first, then the node itself by the
first rule whose shape it has. What a rule builds is not reduced again, and a node that no rule
fits stays as it is.
-/

namespace PegText

structure TreeRule (α : Type) where
  name : String
  shape : Shape
  build : Builder α (Tree α)

structure Ruleset (α : Type) where
  rules : List (TreeRule α)
  maxDepth : Nat

namespace Ruleset

variable {α : Type}

def defaultMaxDepth : Nat := 512

def ofRules (rules : List (TreeRule α)) : Ruleset α := ⟨rules, defaultMaxDepth⟩

def names (ruleset : Ruleset α) : List String := ruleset.rules.map TreeRule.name

def display (ruleset : Ruleset α) : String :=
  "Transform \x7b rules: [" ++ ", ".intercalate (ruleset.names.map Quoted.text) ++
    "], max_depth: " ++ toString ruleset.maxDepth ++ " \x7d"

structure Setting (α : Type) where
  source : Option Source
  write : α → String

def malformed (setting : Setting α) (rule : TreeRule α) (tree : Tree α) (error : BindingError) :
    Diagnostic :=
  (Diagnostic.ofCause
    (.malformedBinding rule.name (tree.display setting.write) error.message)).locate
      setting.source tree.span?

def tooDeep (setting : Setting α) (limit : Nat) (tree : Tree α) : Diagnostic :=
  (Diagnostic.ofCause (.treeDepthLimit limit)).locate setting.source tree.span?

variable [BEq α]

def reduceNode (setting : Setting α) : List (TreeRule α) → Tree α → Except Diagnostic (Tree α)
  | [], tree => .ok tree
  | rule :: rest, tree =>
      match rule.shape.match? tree with
      | none => reduceNode setting rest tree
      | some bindings =>
          match (rule.build.run bindings).1 with
          | .ok built => .ok built
          | .error error => .error (malformed setting rule tree error)

mutual

def reduce (ruleset : Ruleset α) (setting : Setting α) (depth : Nat) :
    Tree α → Except Diagnostic (Tree α)
  | .atom slice =>
      if ruleset.maxDepth ≤ depth then .error (tooDeep setting ruleset.maxDepth (.atom slice))
      else reduceNode setting ruleset.rules (.atom slice)
  | .value content =>
      if ruleset.maxDepth ≤ depth then .error (tooDeep setting ruleset.maxDepth (.value content))
      else reduceNode setting ruleset.rules (.value content)
  | .record entries =>
      if ruleset.maxDepth ≤ depth then .error (tooDeep setting ruleset.maxDepth (.record entries))
      else
        match reduceEntries ruleset setting (depth + 1) entries with
        | .ok entries => reduceNode setting ruleset.rules (.record entries)
        | .error diagnostic => .error diagnostic
  | .list items =>
      if ruleset.maxDepth ≤ depth then .error (tooDeep setting ruleset.maxDepth (.list items))
      else
        match reduceItems ruleset setting (depth + 1) items with
        | .ok items => reduceNode setting ruleset.rules (.list items)
        | .error diagnostic => .error diagnostic

def reduceEntries (ruleset : Ruleset α) (setting : Setting α) (depth : Nat) :
    List (String × Tree α) → Except Diagnostic (List (String × Tree α))
  | [] => .ok []
  | (name, tree) :: rest =>
      match reduce ruleset setting depth tree with
      | .error diagnostic => .error diagnostic
      | .ok tree => (reduceEntries ruleset setting depth rest).map ((name, tree) :: ·)

def reduceItems (ruleset : Ruleset α) (setting : Setting α) (depth : Nat) :
    List (Tree α) → Except Diagnostic (List (Tree α))
  | [] => .ok []
  | tree :: rest =>
      match reduce ruleset setting depth tree with
      | .error diagnostic => .error diagnostic
      | .ok tree => (reduceItems ruleset setting depth rest).map (tree :: ·)

end

def apply (ruleset : Ruleset α) (setting : Setting α) (tree : Tree α) :
    Except Diagnostic (Tree α) :=
  ruleset.reduce setting 0 tree

def applyCapture (ruleset : Ruleset α) (setting : Setting α) (capture : Capture) :
    Except Diagnostic (Tree α) :=
  ruleset.apply setting (.ofCapture capture)

end Ruleset

end PegText
