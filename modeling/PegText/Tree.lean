import PegText.Capture
import PegText.Diagnostic

/-!
Trees on their way from a parse tree to constructed values. A single named capture is a record
with one entry here, so that a ruleset has to know one form of record only.
-/

namespace PegText

inductive Tree (α : Type)
  | atom (slice : Slice)
  | record (entries : List (String × Tree α))
  | list (items : List (Tree α))
  | value (content : α)

namespace Tree

variable {α : Type}

mutual

def ofCapture : Capture → Tree α
  | .atom slice => atom slice
  | .tagged name content => record [(name, ofCapture content)]
  | .record entries => record (ofEntries entries)
  | .list items => list (ofItems items)

def ofEntries : List (String × Capture) → List (String × Tree α)
  | [] => []
  | (name, content) :: rest => (name, ofCapture content) :: ofEntries rest

def ofItems : List Capture → List (Tree α)
  | [] => []
  | item :: rest => ofCapture item :: ofItems rest

end

def get? (name : String) : Tree α → Option (Tree α)
  | record entries => Entries.lookup name entries
  | _ => none

def text? : Tree α → Option String
  | atom slice => some slice.text
  | _ => none

def isSimple : Tree α → Bool
  | atom _ | value _ => true
  | _ => false

def kind : Tree α → String
  | atom _ => "atom"
  | record _ => "record"
  | list _ => "list"
  | value _ => "value"

def value? : Tree α → Except Diagnostic α
  | value content => .ok content
  | tree => .error (.ofCause (.incompleteTransform "a constructed value" tree.kind))

mutual

def span? : Tree α → Option Span
  | atom slice => some slice.span
  | record entries => Span.cover (entrySpans entries)
  | list items => Span.cover (itemSpans items)
  | value _ => none

def entrySpans : List (String × Tree α) → List Span
  | [] => []
  | (_, tree) :: rest => tree.span?.toList ++ entrySpans rest

def itemSpans : List (Tree α) → List Span
  | [] => []
  | tree :: rest => tree.span?.toList ++ itemSpans rest

end

mutual

def display (write : α → String) : Tree α → String
  | atom slice => Quoted.text slice.text
  | value content => write content
  | record entries => "\x7b" ++ ", ".intercalate (displayEntries write entries) ++ "\x7d"
  | list items => "[" ++ ", ".intercalate (displayItems write items) ++ "]"

def displayEntries (write : α → String) : List (String × Tree α) → List String
  | [] => []
  | (name, tree) :: rest => (name ++ ": " ++ tree.display write) :: displayEntries write rest

def displayItems (write : α → String) : List (Tree α) → List String
  | [] => []
  | tree :: rest => tree.display write :: displayItems write rest

end

mutual

def alike [BEq α] : Tree α → Tree α → Bool
  | atom first, atom second => first == second
  | record entries, record entries' => alikeEntries entries entries'
  | list items, list items' => alikeItems items items'
  | value content, value content' => content == content'
  | _, _ => false

def alikeEntries [BEq α] : List (String × Tree α) → List (String × Tree α) → Bool
  | [], [] => true
  | (name, tree) :: rest, (name', tree') :: rest' =>
      name == name' && tree.alike tree' && alikeEntries rest rest'
  | _, _ => false

def alikeItems [BEq α] : List (Tree α) → List (Tree α) → Bool
  | [], [] => true
  | tree :: rest, tree' :: rest' => tree.alike tree' && alikeItems rest rest'
  | _, _ => false

end

instance [BEq α] : BEq (Tree α) := ⟨alike⟩

mutual

def height : Tree α → Nat
  | atom _ | value _ => 1
  | record entries => entriesHeight entries + 1
  | list items => itemsHeight items + 1

def entriesHeight : List (String × Tree α) → Nat
  | [] => 0
  | (_, tree) :: rest => max tree.height (entriesHeight rest)

def itemsHeight : List (Tree α) → Nat
  | [] => 0
  | tree :: rest => max tree.height (itemsHeight rest)

end

end Tree

end PegText
