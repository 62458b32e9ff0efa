import PegText.Proofs.Text.Legible

/-!
Lists that are written between brackets, with commas between their items. Such a list tells its items
and where it ends if every item is legible.
-/

namespace PegText

open CharClass (isAsciiDigit)
open PegText.Language (Clear)

theorem toList_intercalate_cons (mark first : String) (rest : List String) :
    (mark.intercalate (first :: rest)).toList =
      first.toList ++ rest.flatMap fun text => mark.toList ++ text.toList := by
  induction rest generalizing first with
  | nil => simp
  | cons next rest ih => simp [String.intercalate_cons_cons, ih]

namespace Joined

variable {α β : Type} {gap : List Char} {write : α → List Char} {meaning : α → β}
  {items others : List α} {opening closing : Char} {rest behind : List Char}

def more (gap : List Char) (write : α → List Char) (items : List α) : List Char :=
  items.flatMap fun item => ',' :: (gap ++ write item)

def all (gap : List Char) (write : α → List Char) : List α → List Char
  | [] => []
  | first :: rest => write first ++ more gap write rest

def enclosed (opening closing : Char) (gap : List Char) (write : α → List Char) (items : List α) :
    List Char :=
  opening :: (all gap write items ++ [closing])

theorem more_cons (gap : List Char) (write : α → List Char) (first : α) (rest : List α) :
    more gap write (first :: rest) = ',' :: (gap ++ (write first ++ more gap write rest)) := by
  rw [more, List.flatMap_cons, List.cons_append, List.append_assoc]
  rfl

theorem toList_intercalate {mark : String} (isMark : mark.toList = ',' :: gap) (write : α → String)
    (items : List α) :
    (mark.intercalate (items.map write)).toList = all gap (fun item => (write item).toList) items := by
  cases items with
  | nil => rfl
  | cons first rest =>
      rw [List.map_cons, toList_intercalate_cons, List.flatMap_map, isMark]
      rfl

def Closes (c : Char) : Prop := c = ']' ∨ c = '\x7d'

theorem Closes.ne_comma (closes : Closes closing) : closing ≠ ',' := by
  rcases closes with rfl | rfl <;> decide

theorem Closes.of?_eq_none (closes : Closes closing) : Form.of? closing = none := by
  rcases closes with rfl | rfl <;> decide

theorem clear_more (closes : Closes closing) :
    Clear isAsciiDigit (more gap write items ++ closing :: rest) := by
  cases items with
  | nil => rcases closes with rfl | rfl <;> exact .cons (by decide)
  | cons => exact .cons (by decide)

theorem more_legible (closes : Closes closing)
    (legible : ∀ item ∈ items, Legible write meaning item)
    (same : more gap write items ++ closing :: rest = more gap write others ++ closing :: behind) :
    items.map meaning = others.map meaning ∧ rest = behind := by
  induction items generalizing others with
  | nil =>
      cases others with
      | nil => exact ⟨rfl, (List.cons.inj same).2⟩
      | cons => exact (closes.ne_comma (List.cons.inj same).1).elim
  | cons item items ih =>
      cases others with
      | nil => exact (closes.ne_comma (List.cons.inj same).1.symm).elim
      | cons other others =>
          obtain ⟨here, later⟩ := List.forall_mem_cons.mp legible
          simp only [more_cons, List.cons_append, List.append_assoc] at same
          have behindGap := List.append_cancel_left (List.cons.inj same).2
          obtain ⟨sameFirst, sameMore⟩ := here (clear_more closes) (clear_more closes) behindGap
          obtain ⟨sameItems, sameRest⟩ := ih later sameMore
          exact ⟨by rw [List.map_cons, List.map_cons, sameFirst, sameItems], sameRest⟩

/-- What closes a list begins none of its items, so that an empty list is told from the others. -/
theorem all_legible (closes : Closes closing) (begins : ∀ item, ∃ form, BeginsAs form (write item))
    (legible : ∀ item ∈ items, Legible write meaning item)
    (same : all gap write items ++ closing :: rest = all gap write others ++ closing :: behind) :
    items.map meaning = others.map meaning ∧ rest = behind := by
  have filled (item : α) (tail : List Char) : write item ++ tail ≠ closing :: behind ∧
      closing :: rest ≠ write item ++ tail := by
    obtain ⟨form, begins⟩ := begins item
    exact ⟨begins.ne_cons closes.of?_eq_none, (begins.ne_cons closes.of?_eq_none).symm⟩
  cases items with
  | nil =>
      cases others with
      | nil => exact ⟨rfl, (List.cons.inj same).2⟩
      | cons other others =>
          simp only [all, List.nil_append, List.append_assoc] at same
          exact ((filled other _).2 same).elim
  | cons item items =>
      cases others with
      | nil =>
          simp only [all, List.nil_append, List.append_assoc] at same
          exact ((filled item _).1 same).elim
      | cons other others =>
          obtain ⟨here, later⟩ := List.forall_mem_cons.mp legible
          simp only [all, List.append_assoc] at same
          obtain ⟨sameFirst, sameMore⟩ := here (clear_more closes) (clear_more closes) same
          obtain ⟨sameItems, sameRest⟩ := more_legible closes later sameMore
          exact ⟨by rw [List.map_cons, List.map_cons, sameFirst, sameItems], sameRest⟩

theorem enclosed_legible (closes : Closes closing)
    (begins : ∀ item, ∃ form, BeginsAs form (write item))
    (legible : ∀ item ∈ items, Legible write meaning item)
    (same : enclosed opening closing gap write items ++ rest =
      enclosed opening closing gap write others ++ behind) :
    items.map meaning = others.map meaning ∧ rest = behind := by
  simp only [enclosed, List.cons_append, List.append_assoc, List.nil_append, List.cons.injEq,
    true_and] at same
  exact all_legible closes begins legible same

end Joined

end PegText
