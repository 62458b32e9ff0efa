import PegText.Proofs.Tree.Reduction

/-!
Which slice a refusal points at. Children are reduced in their order and the first error ends the
reduction, so a tree is refused at the first slice that is to blame in any of its children, if it
is not refused for its depth.
-/

namespace PegText.Ruleset

inductive Blames (source : Source) (blamed : String) {β : Type} :
    Option Slice → Except Diagnostic β → Prop
  | done {result} : Blames source blamed none (.ok result)
  | refused {slice diagnostic shown reason} :
      diagnostic.cause = .malformedBinding blamed shown reason →
      diagnostic.place = some ⟨source, slice.span⟩ →
      Blames source blamed (some slice) (.error diagnostic)
  | tooDeep {slice diagnostic limit} : diagnostic.cause = .treeDepthLimit limit →
      Blames source blamed slice (.error diagnostic)

namespace Blames

variable {source : Source} {blamed : String} {slice later : Option Slice}

theorem of_ok {β : Type} {answer : Except Diagnostic β} (ok : ∃ result, answer = .ok result) :
    Blames source blamed none answer := by
  obtain ⟨result, rfl⟩ := ok
  exact .done

theorem of_ends {β : Type} {limit : Nat} {high : Prop} {answer : Except Diagnostic β} {result : β}
    (ends : Ends blamed limit high answer (some result)) : Blames source blamed none answer := by
  cases ends with
  | done => exact .done
  | tooDeep _ cause => exact .tooDeep cause

theorem bind {β γ : Type} {first : Except Diagnostic β} {next : β → Except Diagnostic γ}
    (here : Blames source blamed slice first)
    (behind : ∀ result, first = .ok result → Blames source blamed later (next result)) :
    Blames source blamed (slice.or later) (first.bind next) := by
  cases here with
  | done => exact behind _ rfl
  | refused cause place => exact .refused cause place
  | tooDeep cause => exact .tooDeep cause

theorem map {β γ : Type} {first : Except Diagnostic β} (change : β → γ)
    (here : Blames source blamed slice first) : Blames source blamed slice (first.map change) := by
  cases here with
  | done => exact .done
  | refused cause place => exact .refused cause place
  | tooDeep cause => exact .tooDeep cause

variable {α : Type} [BEq α] {ruleset : Ruleset α} {setting : Setting α} {depth : Nat}
  {tree : Tree α}

theorem of_deep (deep : ruleset.maxDepth ≤ depth) (tree : Tree α) :
    Blames source blamed slice (ruleset.reduce setting depth tree) := by
  cases tree with
  | atom | value | record | list =>
      rw [reduce, if_pos deep]
      exact .tooDeep (Diagnostic.cause_locate _ _ _)

theorem entries_nil : Blames source blamed none (ruleset.reduceEntries setting depth []) :=
  .of_ok ⟨[], by rw [reduceEntries]⟩

theorem entries_cons (name : String) {rest : List (String × Tree α)}
    (here : Blames source blamed slice (ruleset.reduce setting depth tree))
    (behind : Blames source blamed later (ruleset.reduceEntries setting depth rest)) :
    Blames source blamed (slice.or later)
      (ruleset.reduceEntries setting depth ((name, tree) :: rest)) := by
  rw [reduceEntries_eq_bind]
  exact here.bind fun tree _ => behind.map ((name, tree) :: ·)

theorem items_nil : Blames source blamed none (ruleset.reduceItems setting depth []) :=
  .of_ok ⟨[], by rw [reduceItems]⟩

theorem items_cons {rest : List (Tree α)}
    (here : Blames source blamed slice (ruleset.reduce setting depth tree))
    (behind : Blames source blamed later (ruleset.reduceItems setting depth rest)) :
    Blames source blamed (slice.or later) (ruleset.reduceItems setting depth (tree :: rest)) := by
  rw [reduceItems_eq_bind]
  exact here.bind fun tree _ => behind.map (tree :: ·)

theorem record {entries : List (String × Tree α)}
    (inside : Blames source blamed slice (ruleset.reduceEntries setting (depth + 1) entries))
    (whole : slice = none →
      Blames source blamed none (ruleset.reduce setting depth (.record entries))) :
    Blames source blamed slice (ruleset.reduce setting depth (.record entries)) := by
  by_cases deep : ruleset.maxDepth ≤ depth
  · exact .of_deep deep _
  cases slice with
  | none => exact whole rfl
  | some slice =>
      rw [reduce, if_neg deep]
      generalize ruleset.reduceEntries setting (depth + 1) entries = answer at inside
      cases inside with
      | refused cause place => exact .refused cause place
      | tooDeep cause => exact .tooDeep cause

theorem list {items : List (Tree α)}
    (inside : Blames source blamed slice (ruleset.reduceItems setting (depth + 1) items))
    (node : ∀ items, reduceNode setting ruleset.rules (.list items) = .ok (.list items)) :
    Blames source blamed slice (ruleset.reduce setting depth (.list items)) := by
  by_cases deep : ruleset.maxDepth ≤ depth
  · exact .of_deep deep _
  have blameless : ∀ reduced, ruleset.reduceItems setting (depth + 1) items = .ok reduced →
      Blames source blamed none (reduceNode setting ruleset.rules (.list reduced)) :=
    fun reduced _ => .of_ok ⟨_, node reduced⟩
  rw [reduce_list_eq_bind (Nat.not_le.mp deep)]
  simpa only [Option.or_none] using inside.bind blameless

theorem atom {leaf : Slice}
    (node : reduceNode setting ruleset.rules (.atom leaf) = .ok (.atom leaf)) :
    Blames source blamed none (ruleset.reduce setting depth (.atom leaf)) := by
  by_cases deep : ruleset.maxDepth ≤ depth
  · exact .of_deep deep _
  · rw [reduce, if_neg deep, node]
    exact .done

theorem leaf {name : String} {leaf : Slice}
    (atom : reduceNode setting ruleset.rules (.atom leaf) = .ok (.atom leaf))
    (node : Blames source blamed slice
      (reduceNode setting ruleset.rules (.record [(name, .atom leaf)]))) :
    Blames source blamed slice (ruleset.reduce setting depth (.record [(name, .atom leaf)])) := by
  by_cases deep : ruleset.maxDepth ≤ depth
  · exact .of_deep deep _
  by_cases deepInside : ruleset.maxDepth ≤ depth + 1
  · rw [reduce, if_neg deep, reduceEntries, reduce, if_pos deepInside]
    exact .tooDeep (Diagnostic.cause_locate _ _ _)
  · have inside : ruleset.reduceEntries setting (depth + 1) [(name, .atom leaf)] =
        .ok [(name, .atom leaf)] := by
      rw [reduceEntries, reduce_atom_eq (Nat.not_le.mp deepInside), atom]
      rfl
    rw [reduce_record_eq (Nat.not_le.mp deep) inside]
    exact node

/-- Where a record is not to blame, its first entry is not. -/
theorem of_first {name : String} {tree : Tree α} {rest : List (String × Tree α)}
    (whole : Blames source blamed none
      (ruleset.reduce setting depth (.record ((name, tree) :: rest)))) :
    Blames source blamed none (ruleset.reduce setting (depth + 1) tree) := by
  by_cases deep : ruleset.maxDepth ≤ depth
  · exact .of_deep (Nat.le_succ_of_le deep) tree
  rw [reduce, if_neg deep, reduceEntries] at whole
  generalize ruleset.reduce setting (depth + 1) tree = answer at whole
  cases answer with
  | ok => exact .done
  | error =>
      cases whole with
      | tooDeep cause => exact .tooDeep cause

end Blames

end PegText.Ruleset
