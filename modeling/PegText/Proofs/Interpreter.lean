import PegText.Interpreter
import PegText.Proofs.Evaluation
import PegText.Proofs.Language.Reading
import PegText.Proofs.Parse.Height
import PegText.Proofs.Parse.Limits
import PegText.Proofs.Tree.Depth

/-!
The three limits on depth fit together. A parse within its limit gives a tree that is no higher, the
expression that the tree is reduced to is no higher than the tree, and so neither the reduction nor
the evaluation runs into a limit that is not below that of the parse.
-/

namespace PegText

theorem Grammar.phase_of_parseNested {grammar : Grammar} {rule : Option String} {source : Source}
    {limit : Nat} {diagnostic : Diagnostic}
    (refused : grammar.parseNested rule source limit = .error diagnostic) :
    diagnostic.cause.phase = .parsing := by
  cases known : grammar.startRule? rule with
  | none =>
      rw [parseNested_unknown known] at refused
      cases refused
      rfl
  | some id =>
      rw [parseNested_eq_parseWith known, parseWith] at refused
      rcases grammar.run id source.text limit with ⟨outcome, progress⟩
      simp only [conclude] at refused
      split at refused
      · cases refused
        rfl
      · cases refused
        rfl
      · split at refused
        · cases refused
        · cases refused
          rfl

/-- A refusal of what a text says, and not of how deep the text was taken apart or of what was built
from it. -/
structure Diagnostic.BlamesText (diagnostic : Diagnostic) : Prop where
  tree : ∀ limit, diagnostic.cause ≠ .treeDepthLimit limit
  value : ∀ expected found, diagnostic.cause ≠ .incompleteTransform expected found
  evaluation : ∀ limit, diagnostic.cause ≠ .recursionLimit limit

theorem Diagnostic.BlamesText.of_phase {diagnostic : Diagnostic}
    (phase : diagnostic.cause.phase = .parsing) : diagnostic.BlamesText := by
  constructor
  all_goals
    intros
    intro same
    rw [same] at phase
    cases phase

theorem Ruleset.Refuses.blamesText {α : Type} {ruleset : Ruleset α} {bottom : Nat}
    {diagnostic : Diagnostic} (refuses : ruleset.Refuses bottom diagnostic)
    (low : bottom ≤ ruleset.maxDepth) : diagnostic.BlamesText where
  tree limit same := Nat.not_lt.mpr low (refuses.tooDeep limit same)
  value := refuses.built
  evaluation limit same := by
    have phase := refuses.phase
    rw [same] at phase
    cases phase

theorem Evaluation.Setting.Walks.blamesText {α : Type} {setting : Evaluation.Setting}
    {bottom : Nat} {state : Evaluation.State} {result : Evaluation.Result α}
    (walks : setting.Walks bottom state result) (low : bottom ≤ setting.maxDepth)
    {diagnostic : Diagnostic} (refused : result.1 = .error diagnostic) :
    diagnostic.BlamesText := by
  have phase := walks.phase diagnostic refused
  refine ⟨fun limit same => ?_, fun expected found same => ?_,
    fun limit same => Nat.not_lt.mpr low (walks.tooDeep diagnostic limit refused same)⟩
  all_goals
    rw [same] at phase
    cases phase

namespace Language.Expression

mutual

theorem Pictures.expr_height {phrase : Phrase} {capture : Capture}
    (pictures : Pictures phrase capture) {expr : Expr} (meant : phrase.expr? = some expr) :
    expr.height ≤ (Tree.ofCapture capture : Tree Expr).height := by
  cases pictures with
  | int =>
      obtain ⟨number, -, rfl⟩ := Option.map_eq_some_iff.mp meant
      exact Tree.height_pos _
  | str =>
      cases meant
      exact Tree.height_pos _
  | sum _ _ _ pictured =>
      obtain ⟨number, -, later⟩ := Option.bind_eq_some_iff.mp meant
      obtain ⟨right, meantRight, rfl⟩ := Option.map_eq_some_iff.mp later
      have below := pictured.expr_height meantRight
      simp only [Expr.height, Tree.ofCapture, Tree.ofEntries, Tree.height, Tree.entriesHeight]
      omega
  | call _ pictured =>
      obtain ⟨exprs, meantAll, rfl⟩ := Option.map_eq_some_iff.mp meant
      have below := pictured.exprs_height meantAll
      simp only [Expr.height, Tree.ofCapture, Tree.ofEntries, Tree.height, Tree.entriesHeight]
      omega

theorem PicturesAll.exprs_height {phrases : List Phrase} {captures : List Capture}
    (pictures : PicturesAll phrases captures) {exprs : List Expr}
    (meant : Phrase.exprs? phrases = some exprs) :
    Expr.heightOfAll exprs ≤ Tree.itemsHeight (Tree.ofItems captures : List (Tree Expr)) := by
  cases pictures with
  | nil =>
      cases meant
      exact Nat.zero_le _
  | cons first rest =>
      obtain ⟨expr, meantFirst, later⟩ := Option.bind_eq_some_iff.mp meant
      obtain ⟨others, meantRest, rfl⟩ := Option.map_eq_some_iff.mp later
      have here := first.expr_height meantFirst
      have behind := rest.exprs_height meantRest
      simp only [Expr.heightOfAll, Tree.ofItems, Tree.itemsHeight]
      omega

end

variable {source : Source} {limit : Nat}

theorem pictured_of_parseNested {capture : Capture}
    (parsed : grammar.parseNested none source limit = .ok capture) :
    ∃ phrase, Pictures phrase capture := by
  rw [grammar_eq] at parsed
  obtain ⟨output, stop, found, -, rfl⟩ := Grammar.matches_of_parseWith accepted parsed
  obtain ⟨phrase, _, _, _, _, _, rfl, pictures⟩ := expression_spelled (RuleTable.matches_rule.mpr found)
  exact ⟨phrase, pictures⟩

/-- What is read is no higher than the limit of the parse, and nothing is refused for its height if
that limit is no higher than the one of the reduction. -/
theorem parseNested_within (low : limit ≤ Ruleset.defaultMaxDepth) :
    (∃ expr, parseNested source limit = .ok expr ∧ expr.height ≤ limit) ∨
      ∃ diagnostic, parseNested source limit = .error diagnostic ∧ diagnostic.BlamesText := by
  cases parsed : grammar.parseNested none source limit with
  | error diagnostic =>
      refine .inr ⟨diagnostic, ?_, .of_phase (Grammar.phase_of_parseNested parsed)⟩
      rw [parseNested, parsed]
      rfl
  | ok capture =>
      obtain ⟨phrase, pictures⟩ := pictured_of_parseNested parsed
      have height : (Tree.ofCapture capture : Tree Expr).height ≤ limit :=
        Grammar.height_le_of_parseNested parsed
      have read : parseNested source limit =
          (ruleset.applyCapture (setting (some source)) capture).bind Tree.value? := by
        rw [parseNested, parsed]
        rfl
      rw [read]
      cases applied : ruleset.applyCapture (setting (some source)) capture with
      | error diagnostic =>
          have refuses := Ruleset.refuses_of_applyCapture applied
          exact .inr ⟨diagnostic, rfl, refuses.blamesText (height.trans low)⟩
      | ok tree =>
          have ends := pictures.ends (setting (some source)) Ruleset.defaultMaxDepth 0
          have same : (bounded Ruleset.defaultMaxDepth).reduce (setting (some source)) 0
              (.ofCapture capture) = .ok tree := applied
          rw [same] at ends
          generalize known : phrase.expr?.map Tree.value = expected at ends
          cases ends with
          | done =>
              obtain ⟨expr, meant, rfl⟩ := Option.map_eq_some_iff.mp known
              exact .inl ⟨expr, rfl, (pictures.expr_height meant).trans height⟩

end Language.Expression

namespace Interpreter

open Language.Expression (bounded cause? grammar grammar_eq setting)

/-- A text is refused for what it says if the limits fit together. -/
theorem blamesText_of_run {text : String} {limits : Limits}
    (reduced : limits.maxNesting ≤ Ruleset.defaultMaxDepth)
    (evaluated : limits.maxNesting ≤ limits.maxDepth) {diagnostic : Diagnostic}
    (refused : (run text limits).1 = .error diagnostic) : diagnostic.BlamesText := by
  rw [run] at refused
  rcases @Language.Expression.parseNested_within (.ofInput text) limits.maxNesting reduced with
    ⟨expr, read, height⟩ | ⟨other, unread, blames⟩
  · simp only [read] at refused
    have walks := @Evaluation.walks_evaluate ⟨.standard, some (.ofInput text), limits.maxDepth⟩
      Registry.standard_total expr .initial
    have start : Evaluation.State.initial.depth = 0 := rfl
    refine walks.blamesText ?_ refused
    rw [start, Nat.zero_add]
    exact height.trans evaluated
  · simp only [unread] at refused
    cases refused
    exact blames

/-- The limits on nesting and depth fit together. The tree of a parse is never higher than the limit
of that parse, so a ruleset whose limit is not below it reduces the tree without meeting its own; and
a text is never refused for the depth of what it was read into, or because no value was built, if the
limit of the parse is below neither that of the reduction nor that of the evaluation, as it is not
by default. -/
theorem limits_fit :
    (∀ (grammar : Grammar) rule source limit capture,
      grammar.parseNested rule source limit = .ok capture →
        ∀ (α : Type) [BEq α], (Tree.ofCapture capture : Tree α).height ≤ limit ∧
          ∀ (ruleset : Ruleset α) setting, limit ≤ ruleset.maxDepth → ∀ diagnostic,
            ruleset.applyCapture setting capture = .error diagnostic →
              ∀ depth, diagnostic.cause ≠ .treeDepthLimit depth) ∧
    (∀ text (limits : Limits), limits.maxNesting ≤ 512 → limits.maxNesting ≤ limits.maxDepth →
      ∀ diagnostic, (run text limits).1 = .error diagnostic →
        (∀ depth, diagnostic.cause ≠ .treeDepthLimit depth) ∧
        (∀ depth, diagnostic.cause ≠ .recursionLimit depth) ∧
        ∀ expected found, diagnostic.cause ≠ .incompleteTransform expected found) ∧
    Limits.standard.maxNesting ≤ 512 ∧ Limits.standard.maxNesting ≤ Limits.standard.maxDepth := by
  refine ⟨?_, ?_, by decide, by decide⟩
  · intro grammar rule source limit capture parsed α _
    have height : (Tree.ofCapture capture : Tree α).height ≤ limit :=
      Grammar.height_le_of_parseNested parsed
    refine ⟨height, fun ruleset setting wide diagnostic refused => ?_⟩
    exact ((Ruleset.refuses_of_applyCapture refused).blamesText (height.trans wide)).tree
  · intro text limits reduced evaluated diagnostic refused
    have blames := blamesText_of_run reduced evaluated refused
    exact ⟨blames.tree, blames.evaluation, blames.value⟩

/-- A number that is too large and a sum that is not one, each read with no more levels than its
parse takes. -/
theorem limits_fit_refused :
    (∃ capture diagnostic,
      grammar.parseNested none (.ofInput "99999999999999999999") 11 = .ok capture ∧
        (Tree.ofCapture capture : Tree Expr).height ≤ 11 ∧ 11 ≤ (bounded 11).maxDepth ∧
          (bounded 11).applyCapture (setting none) capture = .error diagnostic ∧
            ∀ depth, diagnostic.cause ≠ .treeDepthLimit depth) ∧
    23 ≤ 512 ∧
    ∃ diagnostic, (run "puts(1+'a')" ⟨23, 23⟩).1 = .error diagnostic ∧
      diagnostic.cause = .typeMismatch "integer" "string" ∧
        (∀ depth, diagnostic.cause ≠ .treeDepthLimit depth) ∧
        (∀ depth, diagnostic.cause ≠ .recursionLimit depth) ∧
        ∀ expected found, diagnostic.cause ≠ .incompleteTransform expected found := by
  obtain ⟨reduces, evaluates, -⟩ := limits_fit
  constructor
  · have unbuilt : (cause? ((grammar.parseNested none (.ofInput "99999999999999999999") 11).bind
        ((bounded 11).applyCapture (setting none)))).map Cause.phase = some .transform := by
      rw [grammar_eq]
      decide +kernel
    cases parsed : grammar.parseNested none (.ofInput "99999999999999999999") 11 with
    | error diagnostic =>
        rw [parsed] at unbuilt
        cases (Option.some.inj unbuilt).symm.trans (Grammar.phase_of_parseNested parsed)
    | ok capture =>
        rw [parsed] at unbuilt
        obtain ⟨height, reduced⟩ := reduces _ _ _ _ _ parsed Expr
        cases applied : (bounded 11).applyCapture (setting none) capture with
        | ok tree =>
            rw [Except.bind, applied] at unbuilt
            cases unbuilt
        | error diagnostic =>
            exact ⟨capture, diagnostic, rfl, height, Nat.le_refl 11, applied,
              reduced _ _ (Nat.le_refl 11) _ applied⟩
  · have mismatch : cause? (run "puts(1+'a')" ⟨23, 23⟩).1 =
        some (.typeMismatch "integer" "string") := by
      rw [run, Language.Expression.parseNested, grammar_eq]
      decide +kernel
    cases ended : (run "puts(1+'a')" ⟨23, 23⟩).1 with
    | ok value =>
        rw [ended] at mismatch
        cases mismatch
    | error diagnostic =>
        rw [ended] at mismatch
        have fits := evaluates "puts(1+'a')" ⟨23, 23⟩ (by decide) (Nat.le_refl 23) diagnostic ended
        exact ⟨by decide, diagnostic, rfl, Option.some.inj mismatch, fits⟩

end Interpreter

end PegText
