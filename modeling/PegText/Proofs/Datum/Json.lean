import PegText.Datum.Json
import PegText.Proofs.Text.Joined
import PegText.Proofs.Text.Quoted

/-!
Data that is written as JSON can be read in one way only, but for variants: a variant is written as a
map of one entry is.
-/

namespace PegText

namespace Datum

mutual

def unvaried : Datum → Datum
  | null => null
  | int number => int number
  | str text => str text
  | list items => list (unvariedItems items)
  | map entries => map (unvariedEntries entries)
  | variant name content => map [(name, content.unvaried)]

def unvariedItems : List Datum → List Datum
  | [] => []
  | item :: rest => item.unvaried :: unvariedItems rest

def unvariedEntries : List (String × Datum) → List (String × Datum)
  | [] => []
  | (name, content) :: rest => (name, content.unvaried) :: unvariedEntries rest

end

theorem unvariedItems_eq_map (items : List Datum) : unvariedItems items = items.map unvaried := by
  induction items with
  | nil => rfl
  | cons item rest ih => rw [unvariedItems, ih, List.map_cons]

def unvariedEntry (entry : String × Datum) : String × Datum := (entry.1, entry.2.unvaried)

theorem unvariedEntries_eq_map (entries : List (String × Datum)) :
    unvariedEntries entries = entries.map unvariedEntry := by
  induction entries with
  | nil => rfl
  | cons entry rest ih => rw [unvariedEntries, ih, List.map_cons, unvariedEntry]

def form : Datum → Form
  | null => .word
  | int _ => .number
  | str _ => .text
  | list _ => .list
  | map _ | variant _ _ => .record

end Datum

namespace Json

open Datum (unvaried unvariedEntry)

theorem escaped (c : Char) :
    Quoted.Escaped [('"', '"'), ('\\', '\\'), ('\n', 'n'), ('\r', 'r'), ('\t', 't'), ('\x08', 'b'),
        ('\x0c', 'f')] (fun c => c.toNat < 0x20)
      (fun c => ['0', '0', Nat.digitChar (c.toNat / 16), Nat.digitChar (c.toNat % 16)]) c
      (escape c) := by
  rw [escape]
  split_ifs with quote backslash newLine carriage tab back feed hidden
  · exact .letter (by simp [quote])
  · exact .letter (by simp [backslash])
  · exact .letter (by simp [newLine])
  · exact .letter (by simp [carriage])
  · exact .letter (by simp [tab])
  · exact .letter (by simp [back])
  · exact .letter (by simp [feed])
  · exact .code hidden
  · exact .plain backslash quote

theorem escaping : Quoted.Escaping escape := by
  refine .of_escaped (by decide) ?_ escaped
  intro c d rest behind control control' same
  simp only [List.cons_append, List.nil_append, List.cons.injEq, true_and] at same
  obtain ⟨sameHigh, sameLow, sameRest⟩ := same
  have high := Quoted.digitChar_inj _ (by omega) _ (by omega) sameHigh
  have low := Quoted.digitChar_inj _ (by omega) _ (by omega) sameLow
  exact ⟨Char.toNat_inj.mp (by omega), sameRest⟩

theorem legible_string (text : String) :
    Legible (fun text : String => (string text).toList) id text := by
  simpa only [string, String.toList_ofList] using escaping.legible text

theorem begins_string (text : String) : BeginsAs .text (string text).toList := by
  rw [string, String.toList_ofList]
  exact .cons rfl

def written (datum : Datum) : List Char := (compact datum).toList

def writtenEntry (entry : String × Datum) : List Char :=
  (string entry.1 ++ ":" ++ compact entry.2).toList

theorem compactItems_eq_map (items : List Datum) : compactItems items = items.map compact := by
  induction items with
  | nil => rfl
  | cons item rest ih => rw [compactItems, ih, List.map_cons]

theorem compactEntries_eq_map (entries : List (String × Datum)) :
    compactEntries entries =
      entries.map fun entry => string entry.1 ++ ":" ++ compact entry.2 := by
  induction entries with
  | nil => rfl
  | cons entry rest ih => rw [compactEntries, ih, List.map_cons]

theorem written_list (items : List Datum) :
    written (.list items) = Joined.enclosed '[' ']' [] written items := by
  rw [written, compact, compactItems_eq_map, String.toList_append, String.toList_append,
    Joined.toList_intercalate rfl]
  rfl

theorem written_map (entries : List (String × Datum)) :
    written (.map entries) = Joined.enclosed '\x7b' '\x7d' [] writtenEntry entries := by
  rw [written, compact, compactEntries_eq_map, String.toList_append, String.toList_append,
    Joined.toList_intercalate rfl]
  rfl

theorem written_variant (name : String) (content : Datum) :
    written (.variant name content) = written (.map [(name, content)]) := by
  simp only [written, compact, compactEntries, String.intercalate_singleton, String.append_assoc]

theorem begins_writtenEntry (entry : String × Datum) : BeginsAs .text (writtenEntry entry) := by
  rw [writtenEntry, string, String.toList_append, String.toList_append, String.toList_ofList]
  exact .cons rfl

theorem begins_written (datum : Datum) : BeginsAs datum.form (written datum) := by
  cases datum with
  | null => exact .cons (by decide)
  | int number => exact .toString_int number
  | str text => exact begins_string text
  | list items =>
      rw [written_list]
      exact .cons rfl
  | map entries =>
      rw [written_map]
      exact .cons rfl
  | variant name content =>
      rw [written_variant, written_map]
      exact .cons rfl

theorem legible_writtenEntry {entry : String × Datum}
    (legible : Legible written unvaried entry.2) : Legible writtenEntry unvariedEntry entry := by
  intro other rest behind clear clear' same
  simp only [writtenEntry, String.toList_append, List.append_assoc] at same
  obtain ⟨sameName, sameMore⟩ := legible_string _ (.cons (by decide)) (.cons (by decide)) same
  obtain ⟨sameContent, sameRest⟩ := legible clear clear' (List.cons.inj sameMore).2
  exact ⟨Prod.ext sameName sameContent, sameRest⟩

/-- Each datum but a variant is written as a map only if it is one. -/
theorem exists_map {other : Datum} (record : other.form = .record) :
    ∃ entries, written other = written (.map entries) ∧
      other.unvaried = .map (entries.map unvariedEntry) := by
  cases other with
  | map entries => exact ⟨entries, rfl, by rw [unvaried, Datum.unvariedEntries_eq_map]⟩
  | variant name content => exact ⟨[(name, content)], written_variant name content, rfl⟩
  | null | int | str | list => cases record

theorem legible_map {entries : List (String × Datum)}
    (legible : ∀ entry ∈ entries, Legible writtenEntry unvariedEntry entry) :
    Legible written unvaried (.map entries) := by
  intro other rest behind _ _ same
  obtain ⟨others, sameWritten, sameUnvaried⟩ :=
    exists_map ((begins_written (.map entries)).unique (begins_written other) same).symm
  rw [sameWritten, written_map, written_map] at same
  obtain ⟨sameEntries, sameRest⟩ := Joined.enclosed_legible (.inr rfl)
    (fun entry => ⟨_, begins_writtenEntry entry⟩) legible same
  rw [sameUnvaried, ← sameEntries, unvaried, Datum.unvariedEntries_eq_map]
  exact ⟨rfl, sameRest⟩

mutual

theorem legible_written (datum : Datum) : Legible written unvaried datum := by
  match datum with
  | .map entries => exact legible_map (legible_entries entries)
  | .variant name content =>
      have single : Legible written unvaried (.map [(name, content)]) :=
        legible_map (List.forall_mem_singleton.mpr (legible_writtenEntry (legible_written content)))
      intro other rest behind clear clear' same
      rw [written_variant] at same
      exact single clear clear' same
  | .null =>
      intro other rest behind clear clear' same
      have sameForm := (begins_written .null).unique (begins_written other) same
      cases other with
      | null => exact ⟨rfl, List.append_cancel_left same⟩
      | int | str | list | map | variant => cases sameForm
  | .int number =>
      intro other rest behind clear clear' same
      have sameForm := (begins_written (.int number)).unique (begins_written other) same
      cases other with
      | int number' =>
          obtain ⟨sameNumber, sameRest⟩ := Integer.legible number clear clear' same
          exact ⟨congrArg Datum.int sameNumber, sameRest⟩
      | null | str | list | map | variant => cases sameForm
  | .str text =>
      intro other rest behind clear clear' same
      have sameForm := (begins_written (.str text)).unique (begins_written other) same
      cases other with
      | str text' =>
          obtain ⟨sameText, sameRest⟩ := legible_string text clear clear' same
          exact ⟨congrArg Datum.str sameText, sameRest⟩
      | null | int | list | map | variant => cases sameForm
  | .list items =>
      intro other rest behind clear clear' same
      have sameForm := (begins_written (.list items)).unique (begins_written other) same
      cases other with
      | list items' =>
          rw [written_list, written_list] at same
          obtain ⟨sameItems, sameRest⟩ := Joined.enclosed_legible (.inl rfl)
            (fun item => ⟨_, begins_written item⟩) (legible_items items) same
          rw [unvaried, unvaried, Datum.unvariedItems_eq_map, Datum.unvariedItems_eq_map, sameItems]
          exact ⟨rfl, sameRest⟩
      | null | int | str | map | variant => cases sameForm

theorem legible_items (items : List Datum) : ∀ item ∈ items, Legible written unvaried item := by
  match items with
  | [] => exact List.forall_mem_nil _
  | item :: rest => exact List.forall_mem_cons.mpr ⟨legible_written item, legible_items rest⟩

theorem legible_entries (entries : List (String × Datum)) :
    ∀ entry ∈ entries, Legible writtenEntry unvariedEntry entry := by
  match entries with
  | [] => exact List.forall_mem_nil _
  | (name, content) :: rest =>
      exact List.forall_mem_cons.mpr
        ⟨legible_writtenEntry (legible_written content), legible_entries rest⟩

end

mutual

theorem compact_unvaried (datum : Datum) : compact datum.unvaried = compact datum := by
  match datum with
  | .null | .int _ | .str _ => rfl
  | .list items => rw [unvaried, compact, compact, compactItems_unvaried items]
  | .map entries => rw [unvaried, compact, compact, compactEntries_unvaried entries]
  | .variant name content =>
      simp only [unvaried, compact, compactEntries, compact_unvaried content,
        String.intercalate_singleton, String.append_assoc]

theorem compactItems_unvaried (items : List Datum) :
    compactItems (Datum.unvariedItems items) = compactItems items := by
  match items with
  | [] => rfl
  | item :: rest =>
      rw [Datum.unvariedItems, compactItems, compactItems, compact_unvaried item,
        compactItems_unvaried rest]

theorem compactEntries_unvaried (entries : List (String × Datum)) :
    compactEntries (Datum.unvariedEntries entries) = compactEntries entries := by
  match entries with
  | [] => rfl
  | (name, content) :: rest =>
      rw [Datum.unvariedEntries, compactEntries, compactEntries, compact_unvaried content,
        compactEntries_unvaried rest]

end

/-- Data has the same JSON text exactly if it differs only in which maps of one entry are variants. -/
theorem compact_eq_iff {first second : Datum} :
    compact first = compact second ↔ first.unvaried = second.unvaried := by
  constructor
  · exact fun same => (legible_written first).eq_of_write (congrArg String.toList same)
  · intro same
    rw [← compact_unvaried first, same, compact_unvaried]

end Json

end PegText
