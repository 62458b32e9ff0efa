import PegText.Tree

/-!
The subtrees that a shape has bound to names, and the ways to use them up.
-/

namespace PegText

inductive BindingError
  | unbound (name : String)
  | shape (name expected found : String)
  | invalid (reason : String)
  deriving DecidableEq

def BindingError.message : BindingError → String
  | unbound name => s!"no binding named '{name}'"
  | shape name expected found => s!"binding '{name}' is {found}, expected {expected}"
  | invalid reason => reason

abbrev Bindings (α : Type) := List (String × Tree α)

namespace Bindings

variable {α : Type}

def bind? [BEq α] (name : String) (tree : Tree α) (bindings : Bindings α) :
    Option (Bindings α) :=
  match Entries.lookup name bindings with
  | some bound => if bound == tree then some bindings else none
  | none => some (Entries.insert name tree bindings)

end Bindings

abbrev Builder (α β : Type) := ExceptT BindingError (StateM (Bindings α)) β

namespace Builder

variable {α : Type}

def shapeError {β : Type} (name expected : String) (found : Tree α) : Builder α β :=
  throw (.shape name expected found.kind)

def names : Builder α (List String) := do
  return Entries.names (← get)

def tree (name : String) : Builder α (Tree α) := do
  match Entries.lookup name (← get) with
  | some tree => return tree
  | none => throw (.unbound name)

def slice (name : String) : Builder α Slice := do
  match ← tree name with
  | .atom slice => return slice
  | other => shapeError name "atom" other

def text (name : String) : Builder α String := do
  return (← slice name).text

def takeTree (name : String) : Builder α (Tree α) := do
  let tree ← tree name
  modify (Entries.erase name)
  return tree

def takeValue (name : String) : Builder α α := do
  match ← takeTree name with
  | .value content => return content
  | other => shapeError name "value" other

def valuesOf (name : String) : List (Tree α) → Builder α (List α)
  | [] => return []
  | .value content :: rest => return content :: (← valuesOf name rest)
  | other :: _ => shapeError name "list of values" other

def takeValues (name : String) : Builder α (List α) := do
  match ← takeTree name with
  | .list items => valuesOf name items
  | other => shapeError name "list of values" other

end Builder

end PegText
