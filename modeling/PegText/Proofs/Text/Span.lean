import PegText.Text.Span

/-!
The smallest span that holds some others: it starts where the first of them does and stops where the
last of them does. There is one unless there are none to hold.
-/

namespace PegText.Span

variable {spans more : List Span} {span hull other : Span}

def Holds (outer inner : Span) : Prop := outer.start ≤ inner.start ∧ inner.stop ≤ outer.stop

structure IsHull (spans : List Span) (hull : Span) : Prop where
  holds : ∀ span ∈ spans, hull.Holds span
  start : ∃ span ∈ spans, span.start = hull.start
  stop : ∃ span ∈ spans, span.stop = hull.stop
  smallest : ∀ outer : Span, (∀ span ∈ spans, outer.Holds span) → outer.Holds hull

theorem holds_join {outer first second : Span} :
    outer.Holds (first.join second) ↔ outer.Holds first ∧ outer.Holds second := by
  simp only [Holds, join]
  omega

theorem join_holds (first second : Span) :
    (first.join second).Holds first ∧ (first.join second).Holds second :=
  holds_join.mp ⟨Nat.le_refl _, Nat.le_refl _⟩

theorem Holds.trans {outer between inner : Span} (one : outer.Holds between)
    (two : between.Holds inner) : outer.Holds inner :=
  ⟨Nat.le_trans one.1 two.1, Nat.le_trans two.2 one.2⟩

namespace IsHull

theorem singleton (span : Span) : IsHull [span] span where
  holds := List.forall_mem_singleton.mpr ⟨Nat.le_refl _, Nat.le_refl _⟩
  start := ⟨span, List.mem_singleton_self span, rfl⟩
  stop := ⟨span, List.mem_singleton_self span, rfl⟩
  smallest _ all := List.forall_mem_singleton.mp all

theorem cons (span : Span) (isHull : IsHull spans hull) :
    IsHull (span :: spans) (span.join hull) where
  holds := by
    obtain ⟨here, behind⟩ := join_holds span hull
    exact List.forall_mem_cons.mpr ⟨here, fun inner among => behind.trans (isHull.holds inner among)⟩
  start := by
    obtain ⟨first, among, least⟩ := isHull.start
    rcases Nat.le_total span.start hull.start with before | behind
    · exact ⟨span, List.mem_cons_self, (Nat.min_eq_left before).symm⟩
    · exact ⟨first, List.mem_cons_of_mem _ among, least.trans (Nat.min_eq_right behind).symm⟩
  stop := by
    obtain ⟨last, among, greatest⟩ := isHull.stop
    rcases Nat.le_total hull.stop span.stop with before | behind
    · exact ⟨span, List.mem_cons_self, (Nat.max_eq_left before).symm⟩
    · exact ⟨last, List.mem_cons_of_mem _ among, greatest.trans (Nat.max_eq_right behind).symm⟩
  smallest outer all := by
    obtain ⟨here, behind⟩ := List.forall_mem_cons.mp all
    exact holds_join.mpr ⟨here, isHull.smallest outer behind⟩

theorem unique (isHull : IsHull spans hull) (isHull' : IsHull spans other) : hull = other := by
  obtain ⟨start, stop⟩ := isHull.smallest other isHull'.holds
  obtain ⟨start', stop'⟩ := isHull'.smallest hull isHull.holds
  obtain ⟨hullStart, hullStop⟩ := hull
  obtain ⟨otherStart, otherStop⟩ := other
  exact Span.mk.injEq .. ▸ ⟨Nat.le_antisymm start' start, Nat.le_antisymm stop stop'⟩

end IsHull

instance : Std.Associative join where
  assoc first second third := by
    simp only [join, Nat.min_assoc, Nat.max_assoc]

theorem cover_cons (span : Span) (spans : List Span) :
    cover (span :: spans) = Option.merge join (some span) (cover spans) := by
  cases spans with
  | nil => rfl
  | cons next rest =>
      rw [cover, cover, List.foldl_cons, List.foldl_assoc]
      rfl

theorem cover_append (spans more : List Span) :
    cover (spans ++ more) = Option.merge join (cover spans) (cover more) := by
  induction spans with
  | nil => exact Option.merge_none_left.symm
  | cons span spans ih =>
      rw [List.cons_append, cover_cons, cover_cons, ih]
      exact (Std.Associative.assoc (some span) (cover spans) (cover more)).symm

@[simp]
theorem cover_toList (span? : Option Span) : cover span?.toList = span? := by
  cases span? <;> rfl

theorem cover_eq_none_iff : cover spans = none ↔ spans = [] := by
  cases spans with
  | nil => exact ⟨fun _ => rfl, fun _ => rfl⟩
  | cons => exact ⟨nofun, nofun⟩

theorem isHull_of_cover (found : cover spans = some hull) : IsHull spans hull := by
  induction spans generalizing hull with
  | nil => cases found
  | cons span spans ih =>
      rw [cover_cons] at found
      cases behind : cover spans with
      | none =>
          rw [behind, Option.merge_none_right] at found
          cases cover_eq_none_iff.mp behind
          cases found
          exact .singleton span
      | some further =>
          rw [behind] at found
          cases found
          exact (ih behind).cons span

theorem cover_eq_some_iff : cover spans = some hull ↔ IsHull spans hull := by
  constructor
  · exact isHull_of_cover
  · intro isHull
    cases found : cover spans with
    | none =>
        obtain ⟨span, among, -⟩ := isHull.start
        rw [cover_eq_none_iff.mp found] at among
        cases among
    | some other => rw [(isHull_of_cover found).unique isHull]

end PegText.Span
