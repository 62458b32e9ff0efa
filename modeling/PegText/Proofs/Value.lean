import PegText.Proofs.Text.Joined
import PegText.Proofs.Text.Quoted
import PegText.Value

/-!
A displayed list tells which values are in it. Strings are quoted at every depth inside it, so that no
quotation mark, comma, bracket or word in one of them is taken for a part of the list.
-/

namespace PegText.Value

def written (value : Value) : List Char := value.displayItem.toList

def form : Value → Form
  | nil => .word
  | int _ => .number
  | str _ => .text
  | list _ => .list

theorem displayItems_eq_map (items : List Value) : displayItems items = items.map displayItem := by
  induction items with
  | nil => rfl
  | cons item rest ih => rw [displayItems, ih, List.map_cons]

theorem written_list (items : List Value) :
    written (list items) = Joined.enclosed '[' ']' [' '] written items := by
  rw [written, displayItem, displayItems_eq_map, String.toList_append, String.toList_append,
    Joined.toList_intercalate rfl]
  rfl

theorem begins_written (value : Value) : BeginsAs value.form value.written := by
  cases value with
  | nil => exact .cons (by decide)
  | int number => exact .toString_int number.toInt
  | str text =>
      rw [written, displayItem, Quoted.text, String.toList_ofList]
      exact .cons rfl
  | list items =>
      rw [written_list]
      exact .cons rfl

mutual

theorem legible_written (value : Value) : Legible written id value := by
  match value with
  | .nil =>
      intro other rest behind clear clear' same
      have sameForm := nil.begins_written.unique other.begins_written same
      cases other with
      | nil => exact ⟨rfl, List.append_cancel_left same⟩
      | int | str | list => cases sameForm
  | .int number =>
      intro other rest behind clear clear' same
      have sameForm := (int number).begins_written.unique other.begins_written same
      cases other with
      | int number' =>
          obtain ⟨sameNumber, sameRest⟩ := Integer.legible number.toInt clear clear' same
          exact ⟨congrArg int (Int64.toInt_inj.mp sameNumber), sameRest⟩
      | nil | str | list => cases sameForm
  | .str text =>
      intro other rest behind clear clear' same
      have sameForm := (str text).begins_written.unique other.begins_written same
      cases other with
      | str text' =>
          obtain ⟨sameText, sameRest⟩ := Quoted.legible_text text clear clear' same
          exact ⟨congrArg str sameText, sameRest⟩
      | nil | int | list => cases sameForm
  | .list items =>
      intro other rest behind clear clear' same
      have sameForm := (list items).begins_written.unique other.begins_written same
      cases other with
      | list items' =>
          rw [written_list, written_list] at same
          obtain ⟨sameItems, sameRest⟩ := Joined.enclosed_legible (.inl rfl)
            (fun item => ⟨_, item.begins_written⟩) (legible_items items) same
          rw [List.map_id, List.map_id] at sameItems
          exact ⟨congrArg list sameItems, sameRest⟩
      | nil | int | str => cases sameForm

theorem legible_items (items : List Value) : ∀ item ∈ items, Legible written id item := by
  match items with
  | [] => exact List.forall_mem_nil _
  | item :: rest => exact List.forall_mem_cons.mpr ⟨legible_written item, legible_items rest⟩

end

/-- Lists are displayed alike only if they hold the same values. -/
theorem display_list_eq_iff {first second : List Value} :
    (list first).display = (list second).display ↔ first = second := by
  constructor
  · intro same
    have writtenAlike : (list first).written = (list second).written :=
      congrArg String.toList same
    exact list.inj ((legible_written (list first)).eq_of_write writtenAlike)
  · exact fun same => congrArg (fun items => (list items).display) same

end PegText.Value
