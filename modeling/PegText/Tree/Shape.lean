import PegText.Tree.Bindings

/-!
Shapes: patterns of trees with named placeholders.
-/

namespace PegText

inductive Shape
  | simple (name : String)
  /-- A list of atoms and values. -/
  | sequence (name : String)
  | subtree (name : String)
  | exact (text : String)
  /-- A record of as many entries as there are fields, with an entry for each field. -/
  | record (fields : List (String × Shape))
  | list (items : List Shape)

namespace Shape

variable {α : Type} [BEq α]

mutual

def bind? : Shape → Tree α → Bindings α → Option (Bindings α)
  | simple name, tree, bindings => if tree.isSimple then bindings.bind? name tree else none
  | sequence name, .list items, bindings =>
      if items.all Tree.isSimple then bindings.bind? name (.list items) else none
  | subtree name, tree, bindings => bindings.bind? name tree
  | exact text, .atom slice, bindings => if slice.text == text then some bindings else none
  | record fields, .record entries, bindings =>
      if fields.length = entries.length then bindFields? fields entries bindings else none
  | list shapes, .list items, bindings =>
      if shapes.length = items.length then bindItems? shapes items bindings else none
  | _, _, _ => none

def bindFields? : List (String × Shape) → List (String × Tree α) → Bindings α →
    Option (Bindings α)
  | [], _, bindings => some bindings
  | (name, shape) :: rest, entries, bindings =>
      match Entries.lookup name entries with
      | none => none
      | some tree =>
          match shape.bind? tree bindings with
          | none => none
          | some bindings => bindFields? rest entries bindings

def bindItems? : List Shape → List (Tree α) → Bindings α → Option (Bindings α)
  | shape :: shapes, tree :: trees, bindings =>
      match shape.bind? tree bindings with
      | none => none
      | some bindings => bindItems? shapes trees bindings
  | _, _, bindings => some bindings

end

def match? (shape : Shape) (tree : Tree α) : Option (Bindings α) := shape.bind? tree []

end Shape

end PegText
