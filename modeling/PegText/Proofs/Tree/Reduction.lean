import PegText.Tree.Ruleset

/-!
How reductions end. The rules of a ruleset are tried on small nodes only, so that a reduction is
followed from the atoms up: each node ends with what is expected of it, or at a number that cannot
be read, or at the limit on depth.
-/

namespace PegText

theorem Diagnostic.cause_locate (diagnostic : Diagnostic) (source : Option Source)
    (span : Option Span) : (diagnostic.locate source span).cause = diagnostic.cause := by
  cases source <;> cases span <;> rfl

namespace Ruleset

section

variable {α : Type} [BEq α] {ruleset : Ruleset α} {setting : Setting α} {depth : Nat}

theorem reduceEntries_eq_bind (name : String) (tree : Tree α) (rest : List (String × Tree α)) :
    ruleset.reduceEntries setting depth ((name, tree) :: rest) =
      (ruleset.reduce setting depth tree).bind fun first =>
        (ruleset.reduceEntries setting depth rest).map ((name, first) :: ·) := by
  rw [reduceEntries]
  cases ruleset.reduce setting depth tree with
  | ok | error => rfl

theorem reduceItems_eq_bind (tree : Tree α) (rest : List (Tree α)) :
    ruleset.reduceItems setting depth (tree :: rest) =
      (ruleset.reduce setting depth tree).bind fun first =>
        (ruleset.reduceItems setting depth rest).map (first :: ·) := by
  rw [reduceItems]
  cases ruleset.reduce setting depth tree with
  | ok | error => rfl

variable (room : depth < ruleset.maxDepth)

include room

theorem reduce_atom_eq (slice : Slice) :
    ruleset.reduce setting depth (.atom slice) =
      reduceNode setting ruleset.rules (.atom slice) := by
  rw [reduce, if_neg (Nat.not_le.mpr room)]

theorem reduce_record_eq_bind (entries : List (String × Tree α)) :
    ruleset.reduce setting depth (.record entries) =
      (ruleset.reduceEntries setting (depth + 1) entries).bind fun reduced =>
        reduceNode setting ruleset.rules (.record reduced) := by
  rw [reduce, if_neg (Nat.not_le.mpr room)]
  cases ruleset.reduceEntries setting (depth + 1) entries with
  | ok | error => rfl

theorem reduce_list_eq_bind (items : List (Tree α)) :
    ruleset.reduce setting depth (.list items) =
      (ruleset.reduceItems setting (depth + 1) items).bind fun reduced =>
        reduceNode setting ruleset.rules (.list reduced) := by
  rw [reduce, if_neg (Nat.not_le.mpr room)]
  cases ruleset.reduceItems setting (depth + 1) items with
  | ok | error => rfl

theorem reduce_record_eq {entries reduced : List (String × Tree α)}
    (inside : ruleset.reduceEntries setting (depth + 1) entries = .ok reduced) :
    ruleset.reduce setting depth (.record entries) =
      reduceNode setting ruleset.rules (.record reduced) := by
  rw [reduce_record_eq_bind room, inside]
  rfl

theorem reduce_list_eq {items reduced : List (Tree α)}
    (inside : ruleset.reduceItems setting (depth + 1) items = .ok reduced) :
    ruleset.reduce setting depth (.list items) =
      reduceNode setting ruleset.rules (.list reduced) := by
  rw [reduce_list_eq_bind room, inside]
  rfl

end

/-- How a reduction ends: with the expected result, in the rule `blamed` where none is expected,
or, in a tree that is too high, at the limit on depth. -/
inductive Ends (blamed : String) (limit : Nat) (high : Prop) {β : Type} :
    Except Diagnostic β → Option β → Prop
  | done {result} : Ends blamed limit high (.ok result) (some result)
  | malformed {diagnostic shown reason} :
      diagnostic.cause = .malformedBinding blamed shown reason →
      Ends blamed limit high (.error diagnostic) none
  | tooDeep {diagnostic expected} : high → diagnostic.cause = .treeDepthLimit limit →
      Ends blamed limit high (.error diagnostic) expected

namespace Ends

variable {blamed : String} {limit : Nat} {high higher : Prop}

theorem mono {β : Type} {answer : Except Diagnostic β} {expected : Option β}
    (ends : Ends blamed limit high answer expected) (taller : high → higher) :
    Ends blamed limit higher answer expected := by
  cases ends with
  | done => exact .done
  | malformed cause => exact .malformed cause
  | tooDeep tall cause => exact .tooDeep (taller tall) cause

/-- A reduction, and what is done with its result if it has one. -/
theorem before {β γ : Type} {first : Except Diagnostic β} {one : Option β}
    {next : β → Except Diagnostic γ} {expected : Option γ}
    (here : Ends blamed limit high first one) (none : one = none → expected = none)
    (behind : ∀ result, one = some result → Ends blamed limit high (next result) expected) :
    Ends blamed limit high (first.bind next) expected := by
  cases here with
  | done => exact behind _ rfl
  | malformed cause =>
      rw [none rfl]
      exact .malformed cause
  | tooDeep tall cause => exact .tooDeep tall cause

theorem bind {β γ : Type} {first : Except Diagnostic β} {one : Option β}
    {next : β → Except Diagnostic γ} {two : β → Option γ} (here : Ends blamed limit high first one)
    (behind : ∀ result, one = some result → Ends blamed limit high (next result) (two result)) :
    Ends blamed limit high (first.bind next) (one.bind two) := by
  cases one with
  | none => exact here.before (fun _ => rfl) nofun
  | some value =>
      refine here.before nofun ?_
      rintro _ ⟨⟩
      exact behind value rfl

/-- The same, if the reduction ends with what stands for `parts`. -/
theorem before_map {β γ δ : Type} {first : Except Diagnostic β} {parts : Option δ} {inside : δ → β}
    {next : β → Except Diagnostic γ} {result : δ → γ}
    (here : Ends blamed limit high first (parts.map inside))
    (node : ∀ part, next (inside part) = .ok (result part)) :
    Ends blamed limit high (first.bind next) (parts.map result) := by
  cases parts with
  | none => exact here.before (fun _ => rfl) nofun
  | some part =>
      refine here.before nofun ?_
      rintro _ ⟨⟩
      rw [node]
      exact .done

theorem map {β γ : Type} {first : Except Diagnostic β} {one : Option β} (change : β → γ)
    (here : Ends blamed limit high first one) :
    Ends blamed limit high (first.map change) (one.map change) := by
  cases here with
  | done => exact .done
  | malformed cause => exact .malformed cause
  | tooDeep tall cause => exact .tooDeep tall cause

variable {α : Type} [BEq α] {ruleset : Ruleset α} {setting : Setting α} {depth : Nat}
  {tree : Tree α}

theorem entries_nil : Ends blamed limit high (ruleset.reduceEntries setting depth []) (some []) :=
  .done

theorem entries_cons (name : String) {rest : List (String × Tree α)} {first : Option (Tree α)}
    {later : Option (List (String × Tree α))}
    (here : Ends blamed limit high (ruleset.reduce setting depth tree) first)
    (behind : Ends blamed limit high (ruleset.reduceEntries setting depth rest) later) :
    Ends blamed limit high (ruleset.reduceEntries setting depth ((name, tree) :: rest))
      (first.bind fun tree => later.map ((name, tree) :: ·)) := by
  rw [reduceEntries_eq_bind]
  exact here.bind fun tree _ => behind.map ((name, tree) :: ·)

theorem entry_map {γ : Type} {parts : Option γ} {change : γ → Tree α} (name : String)
    (here : Ends blamed limit high (ruleset.reduce setting depth tree) (parts.map change)) :
    Ends blamed limit high (ruleset.reduceEntries setting depth [(name, tree)])
      (parts.map fun part => [(name, change part)]) := by
  have single := here.entries_cons name entries_nil
  cases parts <;> exact single

theorem items_cons {rest : List (Tree α)} {first : Option (Tree α)}
    {later : Option (List (Tree α))}
    (here : Ends blamed limit high (ruleset.reduce setting depth tree) first)
    (behind : Ends blamed limit high (ruleset.reduceItems setting depth rest) later) :
    Ends blamed limit high (ruleset.reduceItems setting depth (tree :: rest))
      (first.bind fun tree => later.map (tree :: ·)) := by
  rw [reduceItems_eq_bind]
  exact here.bind fun tree _ => behind.map (tree :: ·)

variable (bound : ruleset.maxDepth = limit) (tall : limit ≤ depth → high)

include bound tall

theorem of_deep (beyond : limit ≤ depth) (tree : Tree α) {expected : Option (Tree α)} :
    Ends blamed limit high (ruleset.reduce setting depth tree) expected := by
  cases tree with
  | atom | value | record | list =>
      rw [reduce, bound, if_pos beyond]
      exact .tooDeep (tall beyond) (Diagnostic.cause_locate _ _ _)

/-- A record is reduced as its entries are, and then by the first rule that fits. -/
theorem record {entries : List (String × Tree α)} {inside : Option (List (String × Tree α))}
    {expected : Option (Tree α)}
    (entriesEnd : Ends blamed limit high
      (ruleset.reduceEntries setting (depth + 1) entries) inside)
    (none : inside = none → expected = none)
    (node : ∀ entries, inside = some entries →
      Ends blamed limit high (reduceNode setting ruleset.rules (.record entries)) expected) :
    Ends blamed limit high (ruleset.reduce setting depth (.record entries)) expected := by
  by_cases beyond : limit ≤ depth
  · exact of_deep bound tall beyond _
  · rw [reduce_record_eq_bind (by omega)]
    exact entriesEnd.before none node

/-- A record whose entries end with what stands for `parts`, if there are any. -/
theorem record_map {γ : Type} {parts : Option γ} {entries : List (String × Tree α)}
    {inside : γ → List (String × Tree α)} {result : γ → Tree α}
    (entriesEnd : Ends blamed limit high
      (ruleset.reduceEntries setting (depth + 1) entries) (parts.map inside))
    (node : ∀ part,
      reduceNode setting ruleset.rules (.record (inside part)) = .ok (result part)) :
    Ends blamed limit high (ruleset.reduce setting depth (.record entries)) (parts.map result) := by
  by_cases beyond : limit ≤ depth
  · exact of_deep bound tall beyond _
  · rw [reduce_record_eq_bind (by omega)]
    exact entriesEnd.before_map node

theorem list_map {γ : Type} {parts : Option γ} {items : List (Tree α)}
    {inside : γ → List (Tree α)} {result : γ → Tree α}
    (itemsEnd : Ends blamed limit high
      (ruleset.reduceItems setting (depth + 1) items) (parts.map inside))
    (node : ∀ part, reduceNode setting ruleset.rules (.list (inside part)) = .ok (result part)) :
    Ends blamed limit high (ruleset.reduce setting depth (.list items)) (parts.map result) := by
  by_cases beyond : limit ≤ depth
  · exact of_deep bound tall beyond _
  · rw [reduce_list_eq_bind (by omega)]
    exact itemsEnd.before_map node

theorem atom {slice : Slice} {expected : Option (Tree α)}
    (node : Ends blamed limit high (reduceNode setting ruleset.rules (.atom slice))
      expected) :
    Ends blamed limit high (ruleset.reduce setting depth (.atom slice)) expected := by
  by_cases beyond : limit ≤ depth
  · exact of_deep bound tall beyond _
  · rw [reduce_atom_eq (by omega)]
    exact node

end Ends

end Ruleset

end PegText
