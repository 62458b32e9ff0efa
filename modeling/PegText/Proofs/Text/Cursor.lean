import PegText.Text.Cursor
import Mathlib.Data.String.Basic

/-!
Positions and the characters between them.
-/

namespace PegText.Cursor

open String (utf8Len)

structure Passes (cursor : Cursor) (passed : List Char) (next : Cursor) : Prop where
  rest : cursor.rest = passed ++ next.rest
  offset : next.offset = cursor.offset + utf8Len passed

theorem Passes.refl (cursor : Cursor) : cursor.Passes [] cursor :=
  ⟨rfl, rfl⟩

theorem Passes.trans {first second third : Cursor} {passed more : List Char}
    (one : first.Passes passed second) (two : second.Passes more third) :
    first.Passes (passed ++ more) third := by
  constructor
  · rw [one.rest, two.rest, List.append_assoc]
  · rw [two.offset, one.offset, String.utf8Len_append, Nat.add_assoc]

theorem Passes.eq_of_offset {cursor next : Cursor} {passed : List Char}
    (passes : cursor.Passes passed next) (same : next.offset = cursor.offset) :
    passed = [] ∧ next = cursor := by
  have none : passed = [] := by
    have offset := passes.offset
    rw [same] at offset
    exact String.utf8Len_eq_zero.mp (by omega)
  subst none
  cases cursor
  cases next
  obtain ⟨rest, _⟩ := passes
  simp_all

theorem Passes.of_text {cursor : Cursor} {text : String} {rest : List Char}
    (begins : cursor.rest = text.toList ++ rest) :
    cursor.Passes text.toList ⟨cursor.offset + text.utf8ByteSize, rest⟩ :=
  ⟨begins, by rw [String.utf8Len_toList]⟩

theorem Passes.of_char {cursor : Cursor} {c : Char} {rest : List Char}
    (begins : cursor.rest = c :: rest) : cursor.Passes [c] ⟨cursor.offset + c.utf8Size, rest⟩ :=
  ⟨begins, by rw [String.utf8Len_cons, String.utf8Len_nil, Nat.zero_add]⟩

theorem Passes.unique {cursor first second : Cursor} {passed : List Char}
    (one : cursor.Passes passed first) (two : cursor.Passes passed second) : first = second := by
  have sameRest := one.rest.symm.trans two.rest
  rw [List.append_right_inj] at sameRest
  have sameOffset := one.offset.trans two.offset.symm
  cases first
  cases second
  simp_all

theorem Passes.char_unique {cursor first second : Cursor} {c d : Char}
    (one : cursor.Passes [c] first) (two : cursor.Passes [d] second) : first = second := by
  have same := one.rest.symm.trans two.rest
  cases (List.cons.inj same).1
  exact one.unique two

theorem Passes.head? {cursor next : Cursor} {c : Char} (passes : cursor.Passes [c] next) :
    cursor.rest.head? = some c := by
  rw [passes.rest]
  rfl

theorem Passes.same_passed {cursor next : Cursor} {first second : List Char}
    (one : cursor.Passes first next) (two : cursor.Passes second next) : first = second :=
  List.append_cancel_right (one.rest.symm.trans two.rest)

@[simp]
theorem passes_nil {cursor next : Cursor} : cursor.Passes [] next ↔ next = cursor :=
  ⟨fun passes => (passes.eq_of_offset passes.offset).2, fun same => same ▸ .refl cursor⟩

theorem passes_append {cursor next : Cursor} {front back : List Char} :
    cursor.Passes (front ++ back) next ↔
      ∃ middle, cursor.Passes front middle ∧ middle.Passes back next := by
  constructor
  · intro passes
    refine ⟨⟨cursor.offset + utf8Len front, back ++ next.rest⟩, ⟨?_, rfl⟩, rfl, ?_⟩
    · rw [passes.rest, List.append_assoc]
    · rw [passes.offset, String.utf8Len_append, Nat.add_assoc]
  · rintro ⟨middle, one, two⟩
    exact one.trans two

theorem passes_cons {cursor next : Cursor} {c : Char} {back : List Char} :
    cursor.Passes (c :: back) next ↔
      ∃ middle, cursor.Passes [c] middle ∧ middle.Passes back next :=
  @passes_append cursor next [c] back

theorem exists_passes {cursor : Cursor} {front back : List Char}
    (same : cursor.rest = front ++ back) : ∃ next, cursor.Passes front next ∧ next.rest = back :=
  ⟨⟨cursor.offset + utf8Len front, back⟩, ⟨same, rfl⟩, rfl⟩

theorem Passes.of_ended {text : String} {passed : List Char} {stop : Cursor}
    (passes : (start text).Passes passed stop) (ended : stop.rest = []) :
    passed = text.toList ∧ stop.offset = text.utf8ByteSize := by
  have all : text.toList = passed := by
    rw [← List.append_nil passed, ← ended]
    exact passes.rest
  refine ⟨all.symm, ?_⟩
  rw [passes.offset, ← all, String.utf8Len_toList]
  exact Nat.zero_add _

theorem Passes.utf8Len_rest {cursor next : Cursor} {passed : List Char}
    (passes : cursor.Passes passed next) :
    utf8Len cursor.rest = utf8Len passed + utf8Len next.rest := by
  rw [passes.rest, String.utf8Len_append]

theorem Passes.length_rest {cursor next : Cursor} {passed : List Char}
    (passes : cursor.Passes passed next) :
    cursor.rest.length = passed.length + next.rest.length := by
  rw [passes.rest, List.length_append]

theorem Passes.rest_lt {cursor next : Cursor} {passed : List Char}
    (passes : cursor.Passes passed next) (further : next.offset ≠ cursor.offset) :
    next.rest.length < cursor.rest.length ∧ utf8Len next.rest < utf8Len cursor.rest := by
  have offset := passes.offset
  have bytes := passes.utf8Len_rest
  have some : passed ≠ [] := by
    rintro rfl
    exact further passes.offset
  have length := List.length_pos_iff.mpr some
  refine ⟨?_, by omega⟩
  rw [passes.rest, List.length_append]
  omega

theorem utf8Len_cons_ne_zero (c : Char) (chars : List Char) : utf8Len (c :: chars) ≠ 0 := by
  rw [ne_eq, String.utf8Len_eq_zero]
  exact List.cons_ne_nil _ _

theorem collect_utf8Len (seen : String) (passed rest : List Char) :
    collect seen (utf8Len passed) (passed ++ rest) = seen ++ String.ofList passed := by
  induction passed generalizing seen with
  | nil => cases rest <;> simp [collect]
  | cons c passed ih =>
      rw [List.cons_append, collect, if_neg (utf8Len_cons_ne_zero c passed), String.utf8Len_cons,
        Nat.add_sub_cancel, ih, ← String.toList_inj]
      simp

theorem Passes.sliceTo {cursor next : Cursor} {passed : List Char}
    (passes : cursor.Passes passed next) :
    cursor.sliceTo next = ⟨String.ofList passed, cursor.offset, next.offset⟩ := by
  have width : next.offset - cursor.offset = utf8Len passed := by
    have offset := passes.offset
    omega
  rw [Cursor.sliceTo, width, passes.rest, collect_utf8Len, spanTo, String.empty_append]

theorem advanceFrom_utf8Len (offset : Nat) (passed rest : List Char) :
    advanceFrom offset (utf8Len passed) (passed ++ rest) = ⟨offset + utf8Len passed, rest⟩ := by
  induction passed generalizing offset with
  | nil => cases rest <;> simp [advanceFrom]
  | cons c passed ih =>
      rw [List.cons_append, advanceFrom, if_neg (utf8Len_cons_ne_zero c passed), String.utf8Len_cons,
        Nat.add_sub_cancel, ih]
      simp only [Cursor.mk.injEq, and_true]
      omega

theorem Passes.advance {cursor next : Cursor} {passed : List Char}
    (passes : cursor.Passes passed next) : cursor.advance (utf8Len passed) = next := by
  rw [Cursor.advance, passes.rest, advanceFrom_utf8Len, ← passes.offset]

end PegText.Cursor
