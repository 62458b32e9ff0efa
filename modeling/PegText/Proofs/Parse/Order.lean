import PegText.Parse
import PegText.Proofs.Grammar.Order
import PegText.Proofs.Parse.Progress

/-!
Runs of the same rules in different places. Wherever a table keeps a rule, a reference to it runs
the same body, so the places show in nothing that a parse gives. With that a grammar depends on the
order of its rules only in whether it is accepted, and there only through names that the passes
leave behind.
-/

namespace PegText

variable {size size' : Nat}

namespace RuleTable.Renames

variable {rules : RuleTable size} {ids : Fin size ≃ Fin size'} {rules' : RuleTable size'}

theorem describe (renames : rules.Renames ids rules') (node : Node size) :
    (node.rename ids).describe rules' = node.describe rules := by
  induction node with
  | literal | char | charClass | any | capture => rfl
  | sequence parts ih | choice parts ih =>
      cases parts with
      | nil => rfl
      | cons first rest => exact ih first List.mem_cons_self
  | repetition _ _ _ _ ih | absent _ ih => exact ih
  | rule id => rw [Node.rename, Node.describe, Node.describe, renames id, Rule.rename]

section

variable {run : Runner size} {run' : Runner size'}
  (same : ∀ node cursor progress, run' (node.rename ids) cursor progress = run node cursor progress)

include same

theorem parts (all : List (Node size)) (cursor : Cursor) (progress : Progress) :
    run'.parts (Node.renameAll ids all) cursor progress = run.parts all cursor progress := by
  induction all generalizing cursor progress with
  | nil => rfl
  | cons part rest ih =>
      rw [Node.renameAll, Runner.parts, Runner.parts, same]
      rcases run part cursor progress with ⟨outcome, between⟩
      cases outcome with
      | failed failure => rfl
      | matched output next => simp only [ih]

theorem branches (all : List (Node size)) (cursor : Cursor) (deepest : Option Failure)
    (progress : Progress) :
    run'.branches cursor (Node.renameAll ids all) deepest progress =
      run.branches cursor all deepest progress := by
  induction all generalizing deepest progress with
  | nil => cases deepest <;> rfl
  | cons branch rest ih =>
      rw [Node.renameAll, Runner.branches, Runner.branches, same]
      rcases run branch cursor progress with ⟨outcome, between⟩
      cases outcome with
      | matched output next => rfl
      | failed failure => exact ih _ between

theorem rounds (inner : Node size) (most : Option Nat) (bound : List Char) (count : Nat)
    (outputs : List Output) (cursor : Cursor) (progress : Progress) :
    run'.rounds (inner.rename ids) most bound count outputs cursor progress =
      run.rounds inner most bound count outputs cursor progress := by
  induction bound generalizing count outputs cursor progress with
  | nil => rw [Runner.rounds, Runner.rounds, same]
  | cons c bound ih => rw [Runner.rounds, Runner.rounds, same]; simp only [ih]

theorem node (renames : rules.Renames ids rules') (node : Node size) (cursor : Cursor)
    (progress : Progress) :
    run'.node rules' (node.rename ids) cursor progress = run.node rules node cursor progress := by
  cases node with
  | literal | char | charClass | any => rfl
  | sequence all => simp only [Node.rename, Runner.node, parts same]
  | choice all => exact branches same all cursor none progress
  | repetition inner => simp only [Node.rename, Runner.node, rounds same, renames.describe]
  | absent inner => simp only [Node.rename, Runner.node, same, renames.describe]
  | capture name inner => simp only [Node.rename, Runner.node, same]
  | rule id =>
      rw [Node.rename, Runner.node, Runner.node, renames id]
      exact same _ cursor progress

end

theorem run (renames : rules.Renames ids rules') (levels : Nat) (node : Node size)
    (cursor : Cursor) (progress : Progress) :
    rules'.run levels (node.rename ids) cursor progress = rules.run levels node cursor progress := by
  induction levels generalizing node cursor progress with
  | zero => rfl
  | succ levels ih =>
      rw [run_succ, run_succ, Renames.node ih renames]

end RuleTable.Renames

namespace Grammar

theorem ruleId?_eq_some {grammar : Grammar}
    (distinct : Function.Injective fun id => (grammar.rules.get id).name) {name : String}
    {id : Fin grammar.size} : grammar.ruleId? name = some id ↔ (grammar.rules.get id).name = name := by
  rw [ruleId?]
  constructor
  · intro found
    have here := List.find?_some found
    exact beq_iff_eq.mp here
  · intro named
    cases found : (List.finRange grammar.size).find? fun id => (grammar.rules.get id).name == name with
    | none =>
        have absent := List.find?_eq_none.mp found id (List.mem_finRange id)
        exact (absent (beq_iff_eq.mpr named)).elim
    | some other =>
        have here := List.find?_some found
        have sameName := beq_iff_eq.mp here
        exact congrArg some (distinct (sameName.trans named.symm))

structure Renames (grammar grammar' : Grammar) (ids : Fin grammar.size ≃ Fin grammar'.size) : Prop where
  name : grammar'.name = grammar.name
  rules : grammar.rules.Renames ids grammar'.rules
  root : grammar'.root = ids grammar.root

namespace Renames

variable {grammar grammar' : Grammar} {ids : Fin grammar.size ≃ Fin grammar'.size}

theorem parseWith (renames : grammar.Renames grammar' ids) (id : Fin grammar.size)
    (source : Source) (limit : Nat) :
    grammar'.parseWith (ids id) source limit = grammar.parseWith id source limit := by
  have body : (grammar'.rules.get (ids id)).body = (grammar.rules.get id).body.rename ids :=
    congrArg Rule.body (renames.rules id)
  rw [Grammar.parseWith, Grammar.parseWith, Grammar.run, Grammar.run, body, renames.rules.run]

theorem ruleId? (renames : grammar.Renames grammar' ids)
    (distinct : Function.Injective fun id => (grammar.rules.get id).name) (name : String) :
    grammar'.ruleId? name = (grammar.ruleId? name).map ids := by
  have sameName (id : Fin grammar.size) :
      (grammar'.rules.get (ids id)).name = (grammar.rules.get id).name :=
    congrArg Rule.name (renames.rules id)
  have distinct' : Function.Injective fun id => (grammar'.rules.get id).name := by
    intro first second same
    obtain ⟨first, rfl⟩ := ids.surjective first
    obtain ⟨second, rfl⟩ := ids.surjective second
    refine congrArg ids (distinct ?_)
    simpa only [sameName] using same
  refine Option.ext fun id' => ?_
  obtain ⟨id, rfl⟩ := ids.surjective id'
  rw [ruleId?_eq_some distinct', sameName id, ← ruleId?_eq_some distinct, Option.map_eq_some_iff]
  constructor
  · intro found
    exact ⟨id, found, rfl⟩
  · rintro ⟨other, found, same⟩
    exact ids.injective same ▸ found

theorem parseNested (renames : grammar.Renames grammar' ids)
    (distinct : Function.Injective fun id => (grammar.rules.get id).name) (rule : Option String)
    (source : Source) (limit : Nat) :
    grammar'.parseNested rule source limit = grammar.parseNested rule source limit := by
  cases rule with
  | none =>
      rw [Grammar.parseNested, Grammar.parseNested, renames.root]
      exact renames.parseWith grammar.root source limit
  | some wanted =>
      rw [Grammar.parseNested, Grammar.parseNested, renames.ruleId? distinct]
      cases grammar.ruleId? wanted with
      | none => simp only [Option.map_none, renames.name]
      | some id => exact renames.parseWith id source limit

end Renames

namespace Draft

variable {read : CharClass.Reader}

theorem injective_names {draft : Draft} {rules : RuleTable draft.rules.length}
    {root : Fin draft.rules.length} (resolved : draft.resolve read = .ok (rules, root)) :
    Function.Injective fun id => (rules.get id).name := by
  obtain ⟨distinct, -, -, compiled⟩ := resolve_eq_ok.mp resolved
  have sameName (id : Fin draft.rules.length) : (rules.get id).name = (draft.rules.get id).1 :=
    (compile_eq_ok.mp compiled id).1
  intro first second same
  have here := (find?_eq_some distinct).mpr (sameName first).symm
  have there := (find?_eq_some distinct).mpr (same.trans (sameName second)).symm
  exact Option.some.inj (here.symm.trans there)

/-- What the order of the rules can change. A draft that is accepted in one order can be refused in
another only for a name that a sequence seems to capture twice, never where the other order leaves
no rule with a name without need; and where both are accepted, no parse tells them apart. -/
theorem agree_of_reorders {draft draft' : Draft} (reorders : draft.Reorders draft')
    {rootName : String} (named : draft.root = some rootName) {grammar : Grammar}
    (built : draft.build? read = some (.ok grammar)) :
    (∀ diagnostic, draft'.build? read = some (.error diagnostic) →
      ∃ rule name, diagnostic.cause = .duplicateCapture rule name) ∧
    (draft'.SettlesLeast read → ∃ grammar', draft'.build? read = some (.ok grammar')) ∧
    ∀ grammar', draft'.build? read = some (.ok grammar') → ∀ rule source limit,
      grammar'.parseNested rule source limit = grammar.parseNested rule source limit := by
  refine ⟨fun _ => reorders.cause_of_refused named built, reorders.exists_grammar named built, ?_⟩
  intro grammar' built' rule source limit
  obtain ⟨rules, root, facts, resolved, settled, -, rfl⟩ := exists_of_build? built
  obtain ⟨rules', root', facts', resolved', settled', -, rfl⟩ := exists_of_build? built'
  obtain ⟨ids, found, resolvedThere, renames⟩ := reorders.resolve named resolved
  cases resolved'.symm.trans resolvedThere
  have distinct := injective_names resolved
  refine @Grammar.Renames.parseNested _ _ ids ⟨reorders.name, ?_, rfl⟩ ?_ rule source limit
  · exact renames.marked (renames.flags_eq settled settled')
  · simpa only [RuleTable.get_marked] using distinct

open Matcher

def entryRule : String × Matcher := ("entry", rule "group" >>> any.named "mark")

def groupRule : String × Matcher :=
  ("group", ((char '!').named "mark" >>> rule "strokes") ||| (char '[' >>> rule "group"))

def strokesRule : String × Matcher := ("strokes", ((char '|').named "stroke").atLeast 0)

/-- The strokes come last, so in the first pass the group seems to capture its mark. Later it takes
the name from itself, through the brackets. -/
def stale : Draft :=
  ⟨"stale", [entryRule, groupRule, strokesRule], some "entry", defaultMaxNesting⟩

def fresh : Draft :=
  ⟨"stale", [strokesRule, groupRule, entryRule], some "entry", defaultMaxNesting⟩

theorem fresh_reorders_stale : fresh.Reorders stale :=
  ⟨rfl, List.reverse_perm [entryRule, groupRule, strokesRule], rfl, rfl⟩

def staleRules : RuleTable 3 :=
  #v[⟨"entry", .sequence [.rule 1, .capture "mark" .any]⟩,
    ⟨"group",
      .choice
        [.sequence [.capture "mark" (.char '!'), .rule 2], .sequence [.char '[', .rule 1]]⟩,
    ⟨"strokes", .repetition (.capture "stroke" (.char '|')) 0 none false⟩]

def staleFacts : FactTable 3 :=
  #v[⟨true, false, ["mark"], false⟩, ⟨true, false, ["mark"], false⟩, ⟨true, true, [], true⟩]

def freshRules : RuleTable 3 :=
  #v[⟨"strokes", .repetition (.capture "stroke" (.char '|')) 0 none false⟩,
    ⟨"group",
      .choice
        [.sequence [.capture "mark" (.char '!'), .rule 0], .sequence [.char '[', .rule 1]]⟩,
    ⟨"entry", .sequence [.rule 1, .capture "mark" .any]⟩]

def freshFacts : FactTable 3 :=
  #v[⟨true, true, [], true⟩, ⟨true, false, [], false⟩, ⟨true, false, ["mark"], false⟩]

theorem resolve_stale : stale.resolve CharClass.read = .ok (staleRules, (0 : Fin 3)) := by
  with_unfolding_all rfl

theorem resolve_fresh : fresh.resolve CharClass.read = .ok (freshRules, (2 : Fin 3)) := by
  with_unfolding_all rfl

theorem facts?_stale : staleRules.facts? = some staleFacts := by
  have reached : staleRules.after 2 = staleFacts := by decide +kernel
  exact RuleTable.facts?_eq_some reached (by decide +kernel)

theorem facts?_fresh : freshRules.facts? = some freshFacts := by
  have reached : freshRules.after 2 = freshFacts := by decide +kernel
  exact RuleTable.facts?_eq_some reached (by decide +kernel)

theorem build?_fresh :
    fresh.build? CharClass.read =
      some (.ok ⟨"stale", 3, freshRules.marked freshFacts, (2 : Fin 3), defaultMaxNesting⟩) :=
  build?_eq_ok resolve_fresh facts?_fresh (by decide +kernel) rfl

/-- The same rules are accepted in one order and refused in the other, for a name that no match
ever gives twice. -/
theorem build?_stale :
    fresh.Reorders stale ∧ fresh.root = some "entry" ∧
      (∃ grammar, fresh.build? CharClass.read = some (.ok grammar)) ∧
        stale.build? CharClass.read =
          some (.error ((Diagnostic.ofCause (.duplicateCapture "entry" "mark")).withHelp
            "give each capture in a sequence a distinct name")) := by
  have refused : check staleRules staleFacts =
      .error ((Diagnostic.ofCause (.duplicateCapture "entry" "mark")).withHelp
        "give each capture in a sequence a distinct name") := by
    decide +kernel
  refine ⟨fresh_reorders_stale, rfl, ⟨_, build?_fresh⟩, ?_⟩
  rw [build?, resolve_stale]
  refine (congrArg (Option.map _) facts?_stale).trans ?_
  exact congrArg some (congrArg (Except.map _) refused)

def settled : Draft :=
  ⟨"stale", [strokesRule, entryRule, groupRule], some "entry", defaultMaxNesting⟩

theorem fresh_reorders_settled : fresh.Reorders settled :=
  ⟨rfl, (List.Perm.swap entryRule groupRule []).cons strokesRule, rfl, rfl⟩

def settledRules : RuleTable 3 :=
  #v[⟨"strokes", .repetition (.capture "stroke" (.char '|')) 0 none false⟩,
    ⟨"entry", .sequence [.rule 2, .capture "mark" .any]⟩,
    ⟨"group",
      .choice
        [.sequence [.capture "mark" (.char '!'), .rule 0], .sequence [.char '[', .rule 2]]⟩]

def settledFacts : FactTable 3 :=
  #v[⟨true, true, [], true⟩, ⟨true, false, ["mark"], false⟩, ⟨true, false, [], false⟩]

theorem resolve_settled : settled.resolve CharClass.read = .ok (settledRules, (1 : Fin 3)) := by
  with_unfolding_all rfl

theorem facts?_settled : settledRules.facts? = some settledFacts := by
  have reached : settledRules.after 2 = settledFacts := by decide +kernel
  exact RuleTable.facts?_eq_some reached (by decide +kernel)

/-- The entry itself captures the mark; the other rules hold no name at all. -/
theorem least_settledFacts : settledRules.Least settledFacts := by
  intro other solves same id
  have notListed : (other.get 2).listed = false := by
    have flags := Finset.ext_iff.mp same ((2 : Fin 3), Facts.Flag.listed)
    rw [FactTable.mem_flags, FactTable.mem_flags] at flags
    exact Bool.eq_iff_iff.mpr flags
  have body : (settledRules.get 1).body = .sequence [.rule 2, .capture "mark" .any] := rfl
  have held : "mark" ∈ (other.get 1).keys := by
    rw [← solves 1, body]
    simp [Node.facts, Node.keys, Node.keysOfAll, Node.anyListed, Node.isListed, notListed]
  have places : ∀ id : Fin 3, id = 0 ∨ id = 1 ∨ id = 2 := by decide
  rcases places id with rfl | rfl | rfl
  · exact List.nil_subset _
  · exact List.cons_subset.mpr ⟨held, List.nil_subset _⟩
  · exact List.nil_subset _

theorem settlesLeast_settled : settled.SettlesLeast CharClass.read := by
  intro rules root resolved
  cases resolve_settled.symm.trans resolved
  exact ⟨settledFacts, facts?_settled, least_settledFacts⟩

theorem agree_of_reorders_settled :
    fresh.Reorders settled ∧ fresh.root = some "entry" ∧
      ∃ grammar, fresh.build? CharClass.read = some (.ok grammar) ∧
        ∃ grammar', settled.build? CharClass.read = some (.ok grammar') ∧
          ∀ rule source limit,
            grammar'.parseNested rule source limit = grammar.parseNested rule source limit := by
  have agree := agree_of_reorders fresh_reorders_settled rfl build?_fresh
  obtain ⟨grammar', built'⟩ := agree.2.1 settlesLeast_settled
  exact ⟨fresh_reorders_settled, rfl, _, build?_fresh, grammar', built', agree.2.2 grammar' built'⟩

end Draft

end Grammar

end PegText
