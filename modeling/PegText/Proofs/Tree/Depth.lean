import PegText.Proofs.Tree.Rewriting

/-!
What a reduction is refused for: something that cannot be built, or a tree that is higher than the
limit on depth allows. What the rules build is not looked into again, so only the height of the
given tree counts.
-/

namespace PegText.Ruleset

variable {α : Type} {ruleset : Ruleset α} {setting : Setting α} {tree : Tree α}
  {diagnostic : Diagnostic}

structure Refuses (ruleset : Ruleset α) (bottom : Nat) (diagnostic : Diagnostic) : Prop where
  phase : diagnostic.cause.phase = .transform
  built : ∀ expected found, diagnostic.cause ≠ .incompleteTransform expected found
  tooDeep : ∀ limit, diagnostic.cause = .treeDepthLimit limit → ruleset.maxDepth < bottom

theorem refuses_tooDeep {bottom limit : Nat} (source : Option Source) (span : Option Span)
    (beyond : ruleset.maxDepth < bottom) :
    ruleset.Refuses bottom ((Diagnostic.ofCause (.treeDepthLimit limit)).locate source span) := by
  constructor
  all_goals rw [Diagnostic.cause_locate]
  · rfl
  · nofun
  · exact fun _ _ => beyond

variable [BEq α]

theorem refuses_of_ruleRefuses {bottom : Nat}
    (refused : ruleset.RuleRefuses setting diagnostic) : ruleset.Refuses bottom diagnostic := by
  obtain ⟨rule, -, tree, -, error, -, -, rfl⟩ := refused
  constructor
  all_goals rw [malformed, Diagnostic.cause_locate]
  · rfl
  · nofun
  · nofun

theorem refuses_of_reduce {depth : Nat} {tree : Tree α}
    (refused : ruleset.reduce setting depth tree = .error diagnostic) :
    ruleset.Refuses (depth + tree.height) diagnostic := by
  rw [reduce_eq_limited] at refused
  cases found : (ruleset.met setting depth tree).find? (ruleset.maxDepth ≤ ·.depth) with
  | none =>
      rw [limited_of_within (by simpa using found)] at refused
      exact refuses_of_ruleRefuses (OnlyRulesRefuse.rewrite tree diagnostic refused)
  | some visit =>
      have beyond : ruleset.maxDepth ≤ visit.depth := by simpa using List.find?_some found
      have below := depth_of_mem_met (List.mem_of_find?_eq_some found)
      rw [limited_of_found found] at refused
      cases refused
      exact refuses_tooDeep _ _ (by omega)

theorem refuses_of_applyCapture {capture : Capture}
    (refused : ruleset.applyCapture setting capture = .error diagnostic) :
    ruleset.Refuses (Tree.ofCapture capture : Tree α).height diagnostic := by
  have refuses := refuses_of_reduce refused
  rwa [Nat.zero_add] at refuses

end PegText.Ruleset
