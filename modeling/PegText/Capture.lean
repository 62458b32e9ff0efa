import PegText.Entries
import PegText.Text.Quoted
import PegText.Text.Span

/-!
Parse trees: what a successful parse has captured. The entries of a record are in the order of
their names, and trees are alike that differ only in where their atoms were matched.
-/

namespace PegText

inductive Capture
  | atom (slice : Slice)
  | tagged (name : String) (value : Capture)
  | record (entries : List (String × Capture))
  | list (items : List Capture)

namespace Capture

def get? (name : String) : Capture → Option Capture
  | tagged tag value => if tag = name then some value else none
  | record entries => Entries.lookup name entries
  | _ => none

def text? : Capture → Option String
  | atom slice => some slice.text
  | _ => none

def items? : Capture → Option (List Capture)
  | list items => some items
  | _ => none

def kind : Capture → String
  | atom _ => "atom"
  | tagged _ _ => "tagged"
  | record _ => "record"
  | list _ => "list"

mutual

def span? : Capture → Option Span
  | atom slice => some slice.span
  | tagged _ value => value.span?
  | record entries => Span.cover (entrySpans entries)
  | list items => Span.cover (itemSpans items)

def entrySpans : List (String × Capture) → List Span
  | [] => []
  | (_, value) :: rest => value.span?.toList ++ entrySpans rest

def itemSpans : List Capture → List Span
  | [] => []
  | item :: rest => item.span?.toList ++ itemSpans rest

end

mutual

def display : Capture → String
  | atom slice => Quoted.text slice.text
  | tagged name value => "\x7b" ++ name ++ ": " ++ value.display ++ "\x7d"
  | record entries => "\x7b" ++ ", ".intercalate (displayEntries entries) ++ "\x7d"
  | list items => "[" ++ ", ".intercalate (displayItems items) ++ "]"

def displayEntries : List (String × Capture) → List String
  | [] => []
  | (name, value) :: rest => (name ++ ": " ++ value.display) :: displayEntries rest

def displayItems : List Capture → List String
  | [] => []
  | item :: rest => item.display :: displayItems rest

end

mutual

def alike : Capture → Capture → Bool
  | atom first, atom second => first == second
  | tagged name value, tagged name' value' => name == name' && value.alike value'
  | record entries, record entries' => alikeEntries entries entries'
  | list items, list items' => alikeItems items items'
  | _, _ => false

def alikeEntries : List (String × Capture) → List (String × Capture) → Bool
  | [], [] => true
  | (name, value) :: rest, (name', value') :: rest' =>
      name == name' && value.alike value' && alikeEntries rest rest'
  | _, _ => false

def alikeItems : List Capture → List Capture → Bool
  | [], [] => true
  | item :: rest, item' :: rest' => item.alike item' && alikeItems rest rest'
  | _, _ => false

end

instance : BEq Capture := ⟨alike⟩

end Capture

end PegText
