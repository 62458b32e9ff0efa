import PegText.Proofs.Grammar.Passes
import Mathlib.Data.Fintype.BigOperators

/-!
The passes over a rule table come to rest exactly if no name travels, and the bound on their
number is never what ends them.
-/

namespace PegText

variable {size : Nat}

theorem FactTable.ext {facts facts' : FactTable size}
    (same : ∀ id, facts.get id = facts'.get id) : facts = facts' :=
  Vector.ext fun index bound => same ⟨index, bound⟩

theorem Facts.ext_holds {facts facts' : Facts}
    (flags : ∀ flag, facts.holds flag = facts'.holds flag) (keys : facts.keys = facts'.keys) :
    facts = facts' := by
  have structured := flags .structured
  have listed := flags .listed
  have nullable := flags .nullable
  cases facts
  cases facts'
  simp only [holds] at structured listed nullable
  simp only at keys
  subst structured listed nullable keys
  rfl

namespace Node

variable {facts : FactTable size}

theorem sorted_keysOfAll {all : List (Node size)}
    (sorted : ∀ node ∈ all, Names.Sorted (node.keys facts)) :
    Names.Sorted (keysOfAll facts all) := by
  cases all with
  | nil => exact .nil
  | cons node rest => exact Names.sorted_union (sorted node List.mem_cons_self)

theorem sorted_keys (sorted : ∀ id, Names.Sorted (facts.get id).keys) (node : Node size) :
    Names.Sorted (node.keys facts) := by
  induction node with
  | literal | char | charClass | any | absent | repetition => exact .nil
  | sequence parts ih =>
      rw [keys]
      split
      · exact .nil
      · exact sorted_keysOfAll ih
  | choice branches ih =>
      rw [keys]
      exact sorted_keysOfAll ih
  | capture => exact List.pairwise_singleton _ _
  | rule id => exact sorted id

theorem captured_of_mem_keys {name : String} (node : Node size) (known : name ∈ node.keys facts) :
    name ∈ node.captureNames ∨ ∃ id, name ∈ (facts.get id).keys := by
  induction node with
  | literal | char | charClass | any | absent | repetition => simp [keys] at known
  | sequence parts ih =>
      rw [keys] at known
      split at known
      · simp at known
      · obtain ⟨part, member, inPart⟩ := mem_keysOfAll.mp known
        rw [captureNames, mem_captureNamesOfAll]
        exact (ih part member inPart).imp_left fun captured => ⟨part, member, captured⟩
  | choice branches ih =>
      rw [keys, mem_keysOfAll] at known
      obtain ⟨branch, member, inBranch⟩ := known
      rw [captureNames, mem_captureNamesOfAll]
      exact (ih branch member inBranch).imp_left fun captured => ⟨branch, member, captured⟩
  | capture other inner =>
      rw [keys, List.mem_singleton] at known
      rw [captureNames, Names.mem_insert]
      exact .inl (.inl known)
  | rule id => exact .inr ⟨id, known⟩

end Node

namespace RuleTable

/-! The passes can leave only finitely many tables behind, so that one of them comes again. -/

def Canonical (rules : RuleTable size) (facts : FactTable size) : Prop :=
  ∀ id, Names.Sorted (facts.get id).keys ∧
    ∀ name ∈ (facts.get id).keys, name ∈ rules.captureNames

theorem mem_captureNames {rules : RuleTable size} {name : String} (id : Fin size)
    (captured : name ∈ (rules.get id).body.captureNames) : name ∈ rules.captureNames := by
  rw [captureNames, Node.mem_captureNamesOfAll]
  have member : rules.get id ∈ rules.toList :=
    Vector.mem_toList_iff.mpr (Vector.getElem_mem id.isLt)
  exact ⟨_, List.mem_map_of_mem member, captured⟩

theorem canonical_bottom (rules : RuleTable size) : rules.Canonical (bottom size) := by
  intro id
  have unknown : (bottom size).get id = .bottom := Vector.getElem_replicate id.isLt
  rw [unknown]
  exact ⟨.nil, by simp [Facts.bottom]⟩

theorem canonical_update {rules : RuleTable size} {facts : FactTable size}
    (canonical : rules.Canonical facts) (id : Fin size) :
    rules.Canonical (rules.update facts id) := by
  intro other
  rw [get_update]
  split
  · refine ⟨Node.sorted_keys (fun id => (canonical id).1) _, fun name known => ?_⟩
    rcases Node.captured_of_mem_keys _ known with captured | ⟨source, passedOn⟩
    · exact mem_captureNames id captured
    · exact (canonical source).2 name passedOn
  · exact canonical other

theorem canonical_pass {rules : RuleTable size} {facts : FactTable size}
    (canonical : rules.Canonical facts) : rules.Canonical (rules.pass facts) := by
  rw [pass]
  induction List.finRange size generalizing facts with
  | nil => exact canonical
  | cons id rest ih => exact ih (canonical_update canonical id)

theorem canonical_after (rules : RuleTable size) (passes : Nat) :
    rules.Canonical (rules.after passes) := by
  induction passes with
  | zero => exact canonical_bottom rules
  | succ passes ih =>
      rw [after_succ]
      exact canonical_pass ih

def picture (rules : RuleTable size) (facts : FactTable size) (id : Fin size) :
    Facts.Flag ⊕ Fin rules.captureNames.length → Bool
  | .inl flag => (facts.get id).holds flag
  | .inr index => (facts.get id).keys.contains (rules.captureNames.get index)

theorem eq_of_picture {rules : RuleTable size} {facts facts' : FactTable size}
    (canonical : rules.Canonical facts) (canonical' : rules.Canonical facts')
    (same : rules.picture facts = rules.picture facts') : facts = facts' := by
  refine FactTable.ext fun id => Facts.ext_holds ?_ ?_
  · intro flag
    exact congrFun (congrFun same id) (.inl flag)
  · refine (canonical id).1.eq_of_members (canonical' id).1 fun name => ?_
    have answers : ∀ name ∈ rules.captureNames,
        name ∈ (facts.get id).keys ↔ name ∈ (facts'.get id).keys := by
      intro name captured
      obtain ⟨index, found⟩ := List.get_of_mem captured
      have answer := congrFun (congrFun same id) (.inr index)
      simp only [picture, found] at answer
      rw [← List.contains_iff_mem, answer, List.contains_iff_mem]
    constructor
    · intro known
      exact (answers name ((canonical id).2 name known)).mp known
    · intro known
      exact (answers name ((canonical' id).2 name known)).mpr known

theorem card_picture (rules : RuleTable size) :
    Fintype.card (Fin size → Facts.Flag ⊕ Fin rules.captureNames.length → Bool) =
      rules.tableCount := by
  have flagCount : Fintype.card Facts.Flag = 3 := rfl
  rw [Fintype.card_fun, Fintype.card_fun, Fintype.card_sum, flagCount, Fintype.card_fin,
    Fintype.card_fin, Fintype.card_bool, ← pow_mul, Nat.mul_comm]
  rfl

theorem after_eq_of_rest {rules : RuleTable size} {passes : Nat}
    (rest : rules.after (passes + 1) = rules.after passes) (more : Nat) :
    rules.after (passes + more) = rules.after passes := by
  induction more with
  | zero => rfl
  | succ more ih => rw [← Nat.add_assoc, after_succ, ih, ← after_succ, rest]

theorem after_add_eq {rules : RuleTable size} {first second : Nat}
    (same : rules.after first = rules.after second) (more : Nat) :
    rules.after (first + more) = rules.after (second + more) := by
  rw [after_add, after_add, same]

/-- The tables before the first one at rest are all different, so there are not too many. -/
theorem ComesToRest.exists_lt {rules : RuleTable size} (rests : rules.ComesToRest) :
    ∃ passes < rules.tableCount, rules.after (passes + 1) = rules.after passes := by
  classical
  obtain ⟨passes, rest, first⟩ := Nat.findX rests
  refine ⟨passes, ?_, rest⟩
  have distinct : Function.Injective fun index : Fin (passes + 1) =>
      rules.picture (rules.after index) := by
    have later : ∀ first second : Nat, first < second → second ≤ passes →
        rules.after first ≠ rules.after second := by
      intro earlier late before bound same
      have repeated := after_add_eq same (passes - late)
      rw [Nat.add_sub_cancel' bound] at repeated
      refine first (earlier + (passes - late)) (by omega) ?_
      rw [after_succ, repeated, ← after_succ, rest]
    intro first second same
    have sameTable : rules.after first = rules.after second :=
      eq_of_picture (canonical_after rules first) (canonical_after rules second) same
    rcases Nat.lt_trichotomy first second with before | equal | behind
    -- had a table come twice, the passes would rest as early as the first time
    · exact (later first second before (by omega) sameTable).elim
    · exact Fin.ext equal
    · exact (later second first behind (by omega) sameTable.symm).elim
  have bound := Fintype.card_le_of_injective _ distinct
  rw [Fintype.card_fin, card_picture] at bound
  omega

theorem settle?_eq_some {rules : RuleTable size} {limit : Nat} {facts rest : FactTable size}
    (settled : rules.settle? limit facts = some rest) :
    rules.pass rest = rest ∧ ∃ passes, rest = rules.pass^[passes] facts := by
  induction limit generalizing facts with
  | zero => simp [settle?] at settled
  | succ limit ih =>
      rw [settle?] at settled
      split at settled
      next same =>
        cases settled
        exact ⟨same, 0, rfl⟩
      next different =>
        obtain ⟨atRest, passes, reached⟩ := ih settled
        exact ⟨atRest, passes + 1, reached⟩

theorem settle?_isSome {rules : RuleTable size} {limit passes : Nat} {facts : FactTable size}
    (bound : passes < limit)
    (rest : rules.pass (rules.pass^[passes] facts) = rules.pass^[passes] facts) :
    (rules.settle? limit facts).isSome := by
  induction limit generalizing facts passes with
  | zero => omega
  | succ limit ih =>
      rw [settle?]
      split
      · rfl
      next different =>
        cases passes with
        | zero => exact (different rest).elim
        | succ passes => exact ih (by omega) rest

theorem pass_eq_of_facts? {rules : RuleTable size} {facts : FactTable size}
    (settled : rules.facts? = some facts) : rules.pass facts = facts :=
  (settle?_eq_some settled).1

/-- There is no answer only where the passes never come to rest. -/
theorem facts?_isSome_iff (rules : RuleTable size) : rules.facts?.isSome ↔ rules.ComesToRest := by
  constructor
  · intro answered
    obtain ⟨facts, settled⟩ := Option.isSome_iff_exists.mp answered
    obtain ⟨atRest, passes, reached⟩ := settle?_eq_some settled
    refine ⟨passes, ?_⟩
    have facts_eq : rules.after passes = facts := reached.symm
    rw [after_succ, facts_eq, atRest]
  · intro rests
    obtain ⟨passes, bound, rest⟩ := rests.exists_lt
    rw [after_succ] at rest
    exact settle?_isSome bound rest

theorem facts?_eq_some {rules : RuleTable size} {facts : FactTable size} {passes : Nat}
    (reached : rules.after passes = facts) (rest : rules.pass facts = facts) :
    rules.facts? = some facts := by
  have still : rules.after (passes + 1) = rules.after passes := by
    rw [after_succ, reached, rest]
  obtain ⟨answer, settled⟩ :=
    Option.isSome_iff_exists.mp ((facts?_isSome_iff rules).mpr ⟨passes, still⟩)
  obtain ⟨stillLater, later, reachedLater⟩ := settle?_eq_some settled
  have stillAnswer : rules.after (later + 1) = rules.after later := by
    rw [after_succ, after, ← reachedLater, stillLater]
  have same : answer = facts := by
    calc
      answer = rules.after later := reachedLater
      _ = rules.after (later + passes) := (after_eq_of_rest stillAnswer passes).symm
      _ = rules.after (passes + later) := by rw [Nat.add_comm]
      _ = rules.after passes := after_eq_of_rest still later
      _ = facts := reached
  rw [settled, same]

theorem exists_repetition (rules : RuleTable size) (start : Nat) :
    ∃ first period, start ≤ first ∧ 0 < period ∧
      rules.after (first + period) = rules.after first := by
  obtain ⟨one, other, different, same⟩ :=
    Finite.exists_ne_map_eq_of_infinite fun passes => rules.picture (rules.after (start + passes))
  have sameTable : rules.after (start + one) = rules.after (start + other) :=
    eq_of_picture (canonical_after rules _) (canonical_after rules _) same
  rcases Nat.lt_or_gt_of_ne different with before | behind
  · refine ⟨start + one, other - one, by omega, by omega, ?_⟩
    rw [show start + one + (other - one) = start + other by omega, sameTable]
  · refine ⟨start + other, one - other, by omega, by omega, ?_⟩
    rw [show start + other + (one - other) = start + one by omega, sameTable]

theorem after_add_mul {rules : RuleTable size} {first period : Nat}
    (repeated : rules.after (first + period) = rules.after first) (rounds : Nat) :
    rules.after (first + rounds * period) = rules.after first := by
  induction rounds with
  | zero => rw [Nat.zero_mul, Nat.add_zero]
  | succ rounds ih =>
      have next := after_add_eq ih period
      rw [repeated] at next
      rw [Nat.succ_mul, ← Nat.add_assoc, next]

theorem holders_grow {rules : RuleTable size} {name : String} {passes : Nat}
    (late : 3 * size ≤ passes)
    (kept : (rules.after passes).holders name ⊆ (rules.after (passes + 1)).holders name)
    (more : Nat) :
    (rules.after passes).holders name ⊆ (rules.after (passes + more)).holders name ∧
      (rules.after (passes + more)).holders name ⊆
        (rules.after (passes + more + 1)).holders name := by
  induction more with
  | zero => exact ⟨subset_rfl, kept⟩
  | succ more ih =>
      refine ⟨ih.1.trans ih.2, ?_⟩
      have sameFlags := (flags_after_succ rules (passes + more) (by omega)).symm
      rw [← Nat.add_assoc, after_succ rules (passes + more), after_succ rules (passes + more + 1)]
      exact holders_pass_mono sameFlags ih.2

theorem holders_shrink {rules : RuleTable size} {name : String} {passes : Nat}
    (late : 3 * size ≤ passes)
    (kept : (rules.after (passes + 1)).holders name ⊆ (rules.after passes).holders name)
    (more : Nat) :
    (rules.after (passes + more)).holders name ⊆ (rules.after passes).holders name ∧
      (rules.after (passes + more + 1)).holders name ⊆
        (rules.after (passes + more)).holders name := by
  induction more with
  | zero => exact ⟨subset_rfl, kept⟩
  | succ more ih =>
      refine ⟨ih.2.trans ih.1, ?_⟩
      have sameFlags := flags_after_succ rules (passes + more) (by omega)
      rw [← Nat.add_assoc, after_succ rules (passes + more), after_succ rules (passes + more + 1)]
      exact holders_pass_mono sameFlags ih.2

/-- A name that some late pass moves in one direction only rests once the tables repeat. -/
theorem holders_rest {rules : RuleTable size} {name : String} {first period passes : Nat}
    (positive : 0 < period) (repeated : rules.after (first + period) = rules.after first)
    (late : 3 * size ≤ passes) (steady : ¬rules.Moves name passes) :
    (rules.after (first + 1)).holders name = (rules.after first).holders name := by
  -- a repetition of the first table far enough on, where the name moves one way only
  have far : passes ≤ first + passes * period := by
    have := Nat.le_mul_of_pos_right passes positive
    omega
  obtain ⟨more, reached⟩ := Nat.exists_eq_add_of_le far
  have here : rules.after (passes + more) = rules.after first := by
    rw [← reached, after_add_mul repeated]
  have next : rules.after (passes + more + 1) = rules.after (first + 1) := after_add_eq here 1
  have again : rules.after (passes + more + period) = rules.after first := by
    rw [after_add_eq here, repeated]
  have lateHere : 3 * size ≤ passes + more + 1 := by omega
  by_cases kept : (rules.after passes).holders name ⊆ (rules.after (passes + 1)).holders name
  · -- once round the period nothing is lost, so nothing is gained on the way
    have grown := (holders_grow late kept more).2
    have grownNext := (holders_grow late kept (more + 1)).2
    have grownOn := (holders_grow lateHere grownNext (period - 1)).1
    rw [show passes + more + 1 + (period - 1) = passes + more + period by omega, again,
      next] at grownOn
    rw [here, next] at grown
    exact grownOn.antisymm grown
  · have gained :
        (rules.after (passes + 1)).holders name ⊆ (rules.after passes).holders name := by
      intro id member
      by_contra absent
      obtain ⟨lost, held, gone⟩ := Finset.not_subset.mp kept
      exact steady ⟨⟨id, absent, member⟩, lost, held, gone⟩
    have shrunk := (holders_shrink late gained more).2
    have shrunkNext := (holders_shrink late gained (more + 1)).2
    have shrunkOn := (holders_shrink lateHere shrunkNext (period - 1)).1
    rw [show passes + more + 1 + (period - 1) = passes + more + period by omega, again,
      next] at shrunkOn
    rw [here, next] at shrunk
    exact shrunk.antisymm shrunkOn

theorem comesToRest_iff_travels (rules : RuleTable size) :
    rules.ComesToRest ↔ ∀ name, ¬rules.Travels name := by
  constructor
  · rintro ⟨passes, rest⟩ name travels
    obtain ⟨id, absent, present⟩ := (travels (passes + 3 * size) (by omega)).1
    have here := after_eq_of_rest rest (3 * size)
    have next := after_eq_of_rest rest (3 * size + 1)
    rw [here] at absent
    rw [Nat.add_assoc, next] at present
    exact absent present
  · intro none
    obtain ⟨first, period, late, positive, repeated⟩ := exists_repetition rules (3 * size)
    -- the flags rest by now, and a table that comes again rests in each name that does not travel
    refine ⟨first, FactTable.ext fun id => Facts.ext_holds ?_ ?_⟩
    · intro flag
      have sameFlags := Finset.ext_iff.mp (flags_after_succ rules first late) (id, flag)
      rw [FactTable.mem_flags, FactTable.mem_flags] at sameFlags
      exact Bool.eq_iff_iff.mpr sameFlags
    · refine (canonical_after rules _ id).1.eq_of_members (canonical_after rules _ id).1 ?_
      intro name
      have steady := none name
      rw [Travels] at steady
      push Not at steady
      obtain ⟨passes, latePasses, still⟩ := steady
      have sameHolders := holders_rest positive repeated latePasses still
      rw [← FactTable.mem_holders, sameHolders, FactTable.mem_holders]

/-- The flags of a rule table always come to rest, all facts do exactly if no name travels, and
on that the construction of a grammar from its draft depends. -/
theorem construction_ends_iff (rules : RuleTable size) (draft : Grammar.Draft)
    (read : CharClass.Reader) :
    (∀ passes, 3 * size ≤ passes →
      (rules.after (passes + 1)).flags = (rules.after passes).flags) ∧
    ((∃ passes, rules.after (passes + 1) = rules.after passes) ↔ ∀ name, ¬rules.Travels name) ∧
    ((∃ answer, draft.build? read = some answer) ↔
      ∀ rules root, draft.resolve read = .ok (rules, root) → ∀ name, ¬rules.Travels name) := by
  refine ⟨flags_after_succ rules, comesToRest_iff_travels rules, ?_⟩
  rw [Grammar.Draft.build?]
  cases resolved : draft.resolve read with
  | error diagnostic => simp
  | ok found =>
      obtain ⟨rules, root⟩ := found
      rw [← Option.isSome_iff_exists, Option.isSome_map, facts?_isSome_iff,
        comesToRest_iff_travels]
      constructor
      · rintro none rules' root' same
        cases same
        exact none
      · intro none
        exact none rules root rfl

end RuleTable

namespace Grammar.Draft

open Matcher

/-- Groups in three kinds of brackets around a mark with dates. The rule `c` seems to capture the
mark until its dates turn out to be a list; by then `b` has taken it over, `a` takes it from `b`
and `c` from `a`. -/
def travelling : Draft :=
  .ofRules "travelling"
    [("a", literal "(" >>> rule "b"),
     ("b", literal "[" >>> rule "c"),
     ("c", ((literal "!").named "mark" >>> rule "dates") ||| (literal "<" >>> rule "a")),
     ("dates",
      (any.named "year" >>> any.named "month" >>> any.named "day" >>> any.named "hour" >>>
        any.named "minute" >>> any.named "second" >>> any.named "zone").atLeast 0)]

def travellingRules : RuleTable 4 :=
  #v[⟨"a", .sequence [.literal "(", .rule 1]⟩,
    ⟨"b", .sequence [.literal "[", .rule 2]⟩,
    ⟨"c",
      .choice
        [.sequence [.capture "mark" (.literal "!"), .rule 3],
          .sequence [.literal "<", .rule 0]]⟩,
    ⟨"dates",
      .repetition
        (.sequence
          [.capture "year" .any, .capture "month" .any, .capture "day" .any,
            .capture "hour" .any, .capture "minute" .any, .capture "second" .any,
            .capture "zone" .any])
        0 none false⟩]

theorem resolve_travelling :
    travelling.resolve CharClass.read = .ok (travellingRules, (0 : Fin 4)) := by
  with_unfolding_all rfl

theorem travellingRules_repeat : travellingRules.after 5 = travellingRules.after 3 := by
  decide +kernel

theorem travellingRules_move : travellingRules.after 4 ≠ travellingRules.after 3 := by
  decide +kernel

theorem travellingRules_restless : ¬travellingRules.ComesToRest := by
  rintro ⟨passes, rest⟩
  have repeated : travellingRules.after (3 + passes * 2) = travellingRules.after 3 :=
    RuleTable.after_add_mul travellingRules_repeat passes
  have next := RuleTable.after_add_eq repeated 1
  have settled := RuleTable.after_eq_of_rest rest (3 + passes)
  have settledNext := RuleTable.after_eq_of_rest rest (3 + passes + 1)
  rw [show passes + (3 + passes) = 3 + passes * 2 by omega, repeated] at settled
  rw [show passes + (3 + passes + 1) = 3 + passes * 2 + 1 by omega, next] at settledNext
  exact travellingRules_move (settledNext.trans settled.symm)

theorem build?_travelling : travelling.build? CharClass.read = none := by
  have unsettled : travellingRules.facts? = none := by
    rw [← Option.not_isSome_iff_eq_none, RuleTable.facts?_isSome_iff]
    exact travellingRules_restless
  rw [build?, resolve_travelling]
  exact congrArg (Option.map _) unsettled

end Grammar.Draft

end PegText
