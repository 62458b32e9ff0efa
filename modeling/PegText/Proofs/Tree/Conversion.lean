import PegText.Datum.Json
import PegText.Proofs.Entries
import PegText.Proofs.Text.Span

/-!
A parse tree and the tree that it is converted to agree: both are displayed and written alike, have
the same text and the same parts, and span the bytes from their first atom to their last one.
-/

namespace PegText

namespace Capture

mutual

def atoms : Capture → List Slice
  | atom slice => [slice]
  | tagged _ content => content.atoms
  | record entries => atomsOfEntries entries
  | list items => atomsOfItems items

def atomsOfEntries : List (String × Capture) → List Slice
  | [] => []
  | (_, content) :: rest => content.atoms ++ atomsOfEntries rest

def atomsOfItems : List Capture → List Slice
  | [] => []
  | item :: rest => item.atoms ++ atomsOfItems rest

end

end Capture

namespace Tree

variable {α : Type}

mutual

def atoms : Tree α → List Slice
  | atom slice => [slice]
  | record entries => atomsOfEntries entries
  | list items => atomsOfItems items
  | value _ => []

def atomsOfEntries : List (String × Tree α) → List Slice
  | [] => []
  | (_, tree) :: rest => tree.atoms ++ atomsOfEntries rest

def atomsOfItems : List (Tree α) → List Slice
  | [] => []
  | tree :: rest => tree.atoms ++ atomsOfItems rest

end

mutual

theorem atoms_ofCapture (capture : Capture) :
    (ofCapture capture : Tree α).atoms = capture.atoms := by
  match capture with
  | .atom slice => rfl
  | .tagged name content =>
      rw [ofCapture, atoms, atomsOfEntries, atomsOfEntries, List.append_nil,
        atoms_ofCapture content, Capture.atoms]
  | .record entries => exact atomsOfEntries_ofEntries entries
  | .list items => exact atomsOfItems_ofItems items

theorem atomsOfEntries_ofEntries (entries : List (String × Capture)) :
    atomsOfEntries (ofEntries entries : List (String × Tree α)) =
      Capture.atomsOfEntries entries := by
  match entries with
  | [] => rfl
  | (name, content) :: rest =>
      rw [ofEntries, atomsOfEntries, Capture.atomsOfEntries, atoms_ofCapture content,
        atomsOfEntries_ofEntries rest]

theorem atomsOfItems_ofItems (items : List Capture) :
    atomsOfItems (ofItems items : List (Tree α)) = Capture.atomsOfItems items := by
  match items with
  | [] => rfl
  | item :: rest =>
      rw [ofItems, atomsOfItems, Capture.atomsOfItems, atoms_ofCapture item,
        atomsOfItems_ofItems rest]

end

mutual

theorem span?_eq_cover (tree : Tree α) : tree.span? = Span.cover (tree.atoms.map Slice.span) := by
  match tree with
  | .atom _ | .value _ => rfl
  | .record entries => exact cover_entrySpans entries
  | .list items => exact cover_itemSpans items

theorem cover_entrySpans (entries : List (String × Tree α)) :
    Span.cover (entrySpans entries) = Span.cover ((atomsOfEntries entries).map Slice.span) := by
  match entries with
  | [] => rfl
  | (name, tree) :: rest =>
      rw [entrySpans, atomsOfEntries, List.map_append, Span.cover_append, Span.cover_append,
        Span.cover_toList, span?_eq_cover tree, cover_entrySpans rest]

theorem cover_itemSpans (items : List (Tree α)) :
    Span.cover (itemSpans items) = Span.cover ((atomsOfItems items).map Slice.span) := by
  match items with
  | [] => rfl
  | tree :: rest =>
      rw [itemSpans, atomsOfItems, List.map_append, Span.cover_append, Span.cover_append,
        Span.cover_toList, span?_eq_cover tree, cover_itemSpans rest]

end

mutual

theorem span?_ofCapture (capture : Capture) :
    (ofCapture capture : Tree α).span? = capture.span? := by
  match capture with
  | .atom slice => rfl
  | .tagged name content =>
      rw [ofCapture, span?, entrySpans, entrySpans, List.append_nil, Span.cover_toList,
        span?_ofCapture content, Capture.span?]
  | .record entries => rw [ofCapture, span?, entrySpans_ofEntries entries, Capture.span?]
  | .list items => rw [ofCapture, span?, itemSpans_ofItems items, Capture.span?]

theorem entrySpans_ofEntries (entries : List (String × Capture)) :
    entrySpans (ofEntries entries : List (String × Tree α)) = Capture.entrySpans entries := by
  match entries with
  | [] => rfl
  | (name, content) :: rest =>
      rw [ofEntries, entrySpans, Capture.entrySpans, span?_ofCapture content,
        entrySpans_ofEntries rest]

theorem itemSpans_ofItems (items : List Capture) :
    itemSpans (ofItems items : List (Tree α)) = Capture.itemSpans items := by
  match items with
  | [] => rfl
  | item :: rest =>
      rw [ofItems, itemSpans, Capture.itemSpans, span?_ofCapture item, itemSpans_ofItems rest]

end

section

variable (write : α → String)

mutual

theorem display_ofCapture (capture : Capture) :
    (ofCapture capture : Tree α).display write = capture.display := by
  match capture with
  | .atom slice => rfl
  | .tagged name content =>
      rw [ofCapture, display, displayEntries, displayEntries, display_ofCapture content,
        String.intercalate_singleton, Capture.display]
      simp only [String.append_assoc]
  | .record entries => rw [ofCapture, display, displayEntries_ofEntries entries, Capture.display]
  | .list items => rw [ofCapture, display, displayItems_ofItems items, Capture.display]

theorem displayEntries_ofEntries (entries : List (String × Capture)) :
    displayEntries write (ofEntries entries : List (String × Tree α)) =
      Capture.displayEntries entries := by
  match entries with
  | [] => rfl
  | (name, content) :: rest =>
      rw [ofEntries, displayEntries, Capture.displayEntries, display_ofCapture content,
        displayEntries_ofEntries rest]

theorem displayItems_ofItems (items : List Capture) :
    displayItems write (ofItems items : List (Tree α)) = Capture.displayItems items := by
  match items with
  | [] => rfl
  | item :: rest =>
      rw [ofItems, displayItems, Capture.displayItems, display_ofCapture item,
        displayItems_ofItems rest]

end

end

section

variable (ofValue : α → Datum)

mutual

theorem datum_ofCapture (capture : Capture) :
    (ofCapture capture : Tree α).datum ofValue = capture.datum := by
  match capture with
  | .atom slice => rfl
  | .tagged name content =>
      rw [ofCapture, datum, datumEntries, datumEntries, datum_ofCapture content, Capture.datum]
  | .record entries => rw [ofCapture, datum, datumEntries_ofEntries entries, Capture.datum]
  | .list items => rw [ofCapture, datum, datumItems_ofItems items, Capture.datum]

theorem datumEntries_ofEntries (entries : List (String × Capture)) :
    datumEntries ofValue (ofEntries entries : List (String × Tree α)) =
      Capture.datumEntries entries := by
  match entries with
  | [] => rfl
  | (name, content) :: rest =>
      rw [ofEntries, datumEntries, Capture.datumEntries, datum_ofCapture content,
        datumEntries_ofEntries rest]

theorem datumItems_ofItems (items : List Capture) :
    datumItems ofValue (ofItems items : List (Tree α)) = Capture.datumItems items := by
  match items with
  | [] => rfl
  | item :: rest =>
      rw [ofItems, datumItems, Capture.datumItems, datum_ofCapture item, datumItems_ofItems rest]

end

end

theorem text?_ofCapture (capture : Capture) :
    (ofCapture capture : Tree α).text? = capture.text? := by
  cases capture <;> rfl

theorem lookup_ofEntries (name : String) (entries : List (String × Capture)) :
    Entries.lookup name (ofEntries entries : List (String × Tree α)) =
      (Entries.lookup name entries).map ofCapture := by
  induction entries with
  | nil => rfl
  | cons entry rest ih =>
      rw [ofEntries, Entries.lookup_cons, ih, Entries.lookup_cons]
      split <;> rfl

theorem get?_ofCapture (name : String) (capture : Capture) :
    (ofCapture capture : Tree α).get? name = (capture.get? name).map ofCapture := by
  cases capture with
  | atom | list => rfl
  | record entries => exact lookup_ofEntries name entries
  | tagged tag content =>
      rw [ofCapture, get?, Entries.lookup_cons, Capture.get?]
      by_cases same : tag = name
      · rw [if_pos same, if_pos same.symm]
        rfl
      · rw [if_neg same, if_neg (Ne.symm same)]
        rfl

def Spanning (atoms : List Slice) (span? : Option Span) : Prop :=
  (span? = none ↔ atoms = []) ∧ ∀ hull, span? = some hull ↔ Span.IsHull (atoms.map Slice.span) hull

theorem spanning_span? (tree : Tree α) : Spanning tree.atoms tree.span? := by
  rw [span?_eq_cover]
  exact ⟨Span.cover_eq_none_iff.trans List.map_eq_nil_iff, fun _ => Span.cover_eq_some_iff⟩

/-- A parse tree and the tree it is converted to are displayed alike, have the same JSON text, the
same text, the same atoms and, under each name, the same part. A parse tree and any tree, converted
or not, span their atoms. -/
theorem ofCapture_agrees (write : α → String) (ofValue : α → Datum) (capture : Capture) :
    let tree : Tree α := ofCapture capture
    tree.display write = capture.display ∧
    Json.compact (tree.datum ofValue) = Json.compact capture.datum ∧
    Json.pretty (tree.datum ofValue) = Json.pretty capture.datum ∧
    tree.text? = capture.text? ∧
    (∀ name, tree.get? name = (capture.get? name).map ofCapture) ∧
    tree.atoms = capture.atoms ∧
    Spanning capture.atoms capture.span? ∧
    ∀ other : Tree α, Spanning other.atoms other.span? := by
  intro tree
  have spanning : Spanning tree.atoms tree.span? := spanning_span? tree
  refine ⟨display_ofCapture write capture, ?_, ?_, text?_ofCapture capture,
    fun name => get?_ofCapture name capture, atoms_ofCapture capture, ?_, spanning_span?⟩
  · rw [datum_ofCapture]
  · rw [datum_ofCapture]
  · rwa [span?_ofCapture, atoms_ofCapture] at spanning

end Tree

end PegText
