import PegText.Proofs.Datum.Json
import PegText.Proofs.Tree.Alike

/-!
What the JSON text of a value, an expression or a parse tree tells: the value and the expression
themselves, and the parse tree up to spans once it is a tree in which a named capture is a record.
-/

namespace PegText

open Datum (unvaried unvariedItems unvariedEntries)

namespace Value

mutual

theorem eq_of_datum {value other : Value} (same : value.datum.unvaried = other.datum.unvaried) :
    value = other := by
  match value with
  | .nil =>
      cases other with
      | nil => rfl
      | int | str | list => cases same
  | .int number =>
      cases other with
      | int number' => exact congrArg int (Int64.toInt_inj.mp (Datum.int.inj same))
      | nil | str | list => cases same
  | .str text =>
      cases other with
      | str text' => exact congrArg str (Datum.str.inj same)
      | nil | int | list => cases same
  | .list items =>
      cases other with
      | list others => exact congrArg list (eq_of_datumItems (Datum.list.inj same))
      | nil | int | str => cases same

theorem eq_of_datumItems {items others : List Value}
    (same : unvariedItems (datumItems items) = unvariedItems (datumItems others)) :
    items = others := by
  match items, others with
  | [], [] => rfl
  | [], _ :: _ | _ :: _, [] => cases same
  | item :: rest, other :: others =>
      obtain ⟨sameItem, sameRest⟩ := List.cons.inj same
      rw [eq_of_datum sameItem, eq_of_datumItems sameRest]

end

end Value

namespace Expr

mutual

theorem eq_of_datum {expr other : Expr} (same : expr.datum.unvaried = other.datum.unvaried) :
    expr = other := by
  match expr with
  | .int number =>
      cases other with
      | int number' =>
          simp only [datum, unvaried, Datum.map.injEq, List.cons.injEq, Prod.mk.injEq,
            Datum.int.injEq, true_and, and_true] at same
          exact congrArg int (Int64.toInt_inj.mp same)
      | str | add | call => simp [datum, unvaried] at same
  | .str text =>
      cases other with
      | str text' =>
          simp only [datum, unvaried, Datum.map.injEq, List.cons.injEq, Prod.mk.injEq,
            Datum.str.injEq, true_and, and_true] at same
          exact congrArg str same
      | int | add | call => simp [datum, unvaried] at same
  | .add left right =>
      cases other with
      | add left' right' =>
          simp only [datum, unvaried, unvariedEntries, Datum.map.injEq, List.cons.injEq,
            Prod.mk.injEq, true_and, and_true] at same
          rw [eq_of_datum same.1, eq_of_datum same.2]
      | int | str | call => simp [datum, unvaried] at same
  | .call name arguments =>
      cases other with
      | call name' arguments' =>
          simp only [datum, unvaried, unvariedEntries, Datum.map.injEq, Datum.str.injEq,
            Datum.list.injEq, List.cons.injEq, Prod.mk.injEq, true_and, and_true] at same
          rw [same.1, eq_of_datumItems same.2]
      | int | str | add => simp [datum, unvaried] at same

theorem eq_of_datumItems {exprs others : List Expr}
    (same : unvariedItems (datumItems exprs) = unvariedItems (datumItems others)) :
    exprs = others := by
  match exprs, others with
  | [], [] => rfl
  | [], _ :: _ | _ :: _, [] => cases same
  | expr :: rest, other :: others =>
      obtain ⟨sameExpr, sameRest⟩ := List.cons.inj same
      rw [eq_of_datum sameExpr, eq_of_datumItems sameRest]

end

end Expr

namespace Capture

variable {α : Type} [BEq α]

def DatumTells (α : Type) [BEq α] (capture : Capture) : Prop :=
  ∀ other : Capture, capture.datum.unvaried = other.datum.unvaried ↔
    (Tree.ofCapture capture : Tree α).alike (Tree.ofCapture other) = true

def DatumTellsEntries (α : Type) [BEq α] (entries : List (String × Capture)) : Prop :=
  ∀ others : List (String × Capture),
    unvariedEntries (datumEntries entries) = unvariedEntries (datumEntries others) ↔
      Tree.alikeEntries (Tree.ofEntries entries : List (String × Tree α)) (Tree.ofEntries others) =
        true

theorem datumTellsEntries_nil : DatumTellsEntries α [] := by
  intro others
  cases others with
  | nil => exact ⟨fun _ => rfl, fun _ => rfl⟩
  | cons => constructor <;> intro same <;> cases same

theorem datumTellsEntries_cons {name : String} {content : Capture}
    {rest : List (String × Capture)} (here : DatumTells α content)
    (later : DatumTellsEntries α rest) : DatumTellsEntries α ((name, content) :: rest) := by
  intro others
  cases others with
  | nil => constructor <;> intro same <;> cases same
  | cons other others =>
      rw [Tree.ofEntries, Tree.ofEntries, Tree.alikeEntries_cons, ← here, ← later]
      simp only [datumEntries, unvariedEntries, List.cons.injEq, Prod.mk.injEq, and_assoc]

theorem datumTells_record {entries : List (String × Capture)}
    (inside : DatumTellsEntries α entries) : DatumTells α (.record entries) := by
  intro other
  cases other with
  | record others =>
      rw [Tree.ofCapture, Tree.ofCapture, Tree.alike, ← inside]
      exact ⟨Datum.map.inj, congrArg Datum.map⟩
  | tagged name content =>
      rw [Tree.ofCapture, Tree.ofCapture, Tree.alike]
      exact Iff.trans ⟨Datum.map.inj, congrArg Datum.map⟩ (inside [(name, content)])
  | atom | list => constructor <;> intro same <;> cases same

mutual

theorem datumTells (capture : Capture) : DatumTells α capture := by
  match capture with
  | .tagged name content =>
      have single : DatumTellsEntries α [(name, content)] :=
        datumTellsEntries_cons (datumTells content) datumTellsEntries_nil
      exact datumTells_record single
  | .record entries => exact datumTells_record (datumTells_entries entries)
  | .atom slice =>
      intro other
      cases other with
      | atom slice' =>
          rw [Tree.ofCapture, Tree.ofCapture, Tree.alike_atom]
          exact ⟨Datum.str.inj, congrArg Datum.str⟩
      | tagged | record | list => constructor <;> intro same <;> cases same
  | .list items =>
      intro other
      cases other with
      | list others =>
          rw [Tree.ofCapture, Tree.ofCapture, Tree.alike, ← datumTells_items items others]
          exact ⟨Datum.list.inj, congrArg Datum.list⟩
      | atom | tagged | record => constructor <;> intro same <;> cases same

theorem datumTells_entries (entries : List (String × Capture)) : DatumTellsEntries α entries := by
  match entries with
  | [] => exact datumTellsEntries_nil
  | (name, content) :: rest =>
      exact datumTellsEntries_cons (datumTells content) (datumTells_entries rest)

theorem datumTells_items (items others : List Capture) :
    unvariedItems (datumItems items) = unvariedItems (datumItems others) ↔
      Tree.alikeItems (Tree.ofItems items : List (Tree α)) (Tree.ofItems others) = true := by
  match items, others with
  | [], [] => exact ⟨fun _ => rfl, fun _ => rfl⟩
  | [], _ :: _ | _ :: _, [] => constructor <;> intro same <;> cases same
  | item :: rest, other :: others =>
      rw [Tree.ofItems, Tree.ofItems, Tree.alikeItems_cons, ← datumTells item other,
        ← datumTells_items rest others]
      simp only [datumItems, unvariedItems, List.cons.injEq]

end

end Capture

/-- The JSON text of a value or of an expression tells which one it is, and two parse trees have the
same JSON text exactly if they are converted to the same tree. -/
theorem json_tells (α : Type) [BEq α] :
    (∀ first second : Value,
      Json.compact first.datum = Json.compact second.datum ↔ first = second) ∧
    (∀ first second : Expr,
      Json.compact first.datum = Json.compact second.datum ↔ first = second) ∧
    ∀ first second : Capture, Json.compact first.datum = Json.compact second.datum ↔
      ((Tree.ofCapture first : Tree α) == Tree.ofCapture second) = true := by
  refine ⟨fun first second => ?_, fun first second => ?_, fun first second => ?_⟩
  · exact ⟨fun same => Value.eq_of_datum (Json.compact_eq_iff.mp same), fun same => by rw [same]⟩
  · exact ⟨fun same => Expr.eq_of_datum (Json.compact_eq_iff.mp same), fun same => by rw [same]⟩
  · exact Json.compact_eq_iff.trans (Capture.datumTells first second)

end PegText
