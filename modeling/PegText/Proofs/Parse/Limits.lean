import PegText.Proofs.Parse.Calls
import PegText.Proofs.Parse.Nesting
import PegText.Proofs.Parse.Semantics

/-!
What a limit decides: whether there is a result, never which one. A parse that stays within its
limit ends alike under every higher one, and a parse is refused as too deep exactly if something in
it, a lookahead or the last round of a repetition included, was called without a level left.
-/

namespace PegText

variable {size : Nat} {rules : RuleTable size}

theorem Progress.likeness_eq : Likeness fun progress other => other = progress where
  settled same fine := same ▸ fine
  note same position expected := by rw [same]
  enter same := by rw [same]
  leave same := by rw [same]

/-- Levels that a run leaves unused make no difference to it. -/
theorem RuleTable.run_of_le (rules : RuleTable size) {levels more : Nat} (enough : levels ≤ more)
    {node : Node size} {cursor : Cursor} {progress : Progress}
    (settled : (rules.run levels node cursor progress).2.exceeded = none) :
    rules.run more node cursor progress = rules.run levels node cursor progress :=
  have follows := rules.run_follows Progress.likeness_eq enough node cursor rfl
  Prod.ext (follows settled).1 (follows settled).2

namespace Grammar

def TooDeep (grammar : Grammar) (rule : Option String) (source : Source) (limit : Nat) : Prop :=
  ∃ diagnostic, grammar.parseNested rule source limit = .error diagnostic ∧
    diagnostic.cause = .nestingLimit limit

variable {grammar : Grammar} {rule : Option String} {source : Source} {limit : Nat}

theorem not_tooDeep_of_unknown (unknown : grammar.startRule? rule = none) :
    ¬ grammar.TooDeep rule source limit := by
  rintro ⟨diagnostic, refused, tooDeep⟩
  rw [parseNested_unknown unknown] at refused
  cases refused
  cases tooDeep

theorem tooDeep_iff_exceeded {id : Fin grammar.size} (known : grammar.startRule? rule = some id) :
    grammar.TooDeep rule source limit ↔ (grammar.run id source.text limit).2.exceeded ≠ none := by
  rw [TooDeep, parseNested_eq_parseWith known, parseWith]
  rcases ran : grammar.run id source.text limit with ⟨outcome, progress⟩
  constructor
  · rintro ⟨diagnostic, refused, tooDeep⟩ settled
    rcases @conclude_of_settled source limit outcome progress settled with
      ⟨capture, parsed⟩ | ⟨other, expected, found, mismatch, unexpected⟩
    · rw [parsed] at refused
      cases refused
    · rw [mismatch] at refused
      cases refused
      rw [unexpected] at tooDeep
      cases tooDeep
  · intro exceeds
    obtain ⟨position, exceeded⟩ := Option.ne_none_iff_exists'.mp exceeds
    exact ⟨_, conclude_of_exceeded source limit exceeded, rfl⟩

theorem parseWith_of_settled {id : Fin grammar.size} {higher : Nat}
    (settled : (grammar.run id source.text limit).2.exceeded = none)
    (same : grammar.run id source.text higher = grammar.run id source.text limit) :
    grammar.parseWith id source higher = grammar.parseWith id source limit := by
  rw [parseWith, parseWith, same]
  rcases ran : grammar.run id source.text limit with ⟨outcome, progress⟩
  have fine : progress.exceeded = none := by
    rwa [ran] at settled
  simp only [conclude, fine]
  cases outcome <;> rfl

theorem parse_of_le (within : ¬ grammar.TooDeep rule source limit) {higher : Nat}
    (more : limit ≤ higher) :
    grammar.parseNested rule source higher = grammar.parseNested rule source limit ∧
      ∀ id, grammar.startRule? rule = some id →
        grammar.run id source.text higher = grammar.run id source.text limit := by
  cases known : grammar.startRule? rule with
  | none =>
      rw [parseNested_unknown known, parseNested_unknown known]
      exact ⟨rfl, fun id here => by cases here⟩
  | some id =>
      have settled : (grammar.run id source.text limit).2.exceeded = none := by
        by_contra exceeds
        exact within ((tooDeep_iff_exceeded known).mpr exceeds)
      have same := grammar.rules.run_of_le more settled
      constructor
      · rw [parseNested_eq_parseWith known, parseNested_eq_parseWith known]
        exact parseWith_of_settled settled same
      · intro other here
        cases here
        exact same

/-- A limit never changes what a parse means. If a parse is not too deep, every higher limit gives
the same run, with the same progress, and so the same tree or the same mismatch; and it is too deep
exactly if one of the calls it makes, wherever that is, has no level left. -/
theorem Draft.limit_only_refuses {read : CharClass.Reader} {draft : Draft}
    (built : draft.build? read = some (.ok grammar)) (rule : Option String) (source : Source)
    (limit : Nat) :
    (¬ grammar.TooDeep rule source limit → ∀ higher, limit ≤ higher →
      grammar.parseNested rule source higher = grammar.parseNested rule source limit ∧
        ∀ id, grammar.startRule? rule = some id →
          grammar.run id source.text higher = grammar.run id source.text limit) ∧
    (grammar.TooDeep rule source limit ↔
      ∃ id call, grammar.startRule? rule = some id ∧
        grammar.rules.Calls limit (.node (grammar.rules.get id).body) (.start source.text) .initial
          call ∧ call.levels = 0) := by
  obtain ⟨facts, accepted⟩ := accepted_of_build? built
  refine ⟨fun within higher more => parse_of_le within more, ?_⟩
  cases known : grammar.startRule? rule with
  | none => simp [not_tooDeep_of_unknown known]
  | some id =>
      have exceeds : (grammar.run id source.text limit).2.exceeded ≠ none ↔
          ∃ call, grammar.rules.Calls limit (.node (grammar.rules.get id).body)
            (.start source.text) .initial call ∧ call.levels = 0 :=
        accepted.exceeds_iff (grammar.rules.body_mem_nodes id) rfl
      rw [tooDeep_iff_exceeded known]
      constructor
      · intro beyond
        obtain ⟨call, calls, stuck⟩ := exceeds.mp beyond
        exact ⟨id, call, rfl, calls, stuck⟩
      · rintro ⟨_, call, here, calls, stuck⟩
        cases here
        exact exceeds.mpr ⟨call, calls, stuck⟩

/-- The second limit is reached in a lookahead, where the failure would have counted as success. -/
theorem Draft.limit_only_refuses_table :
    table.build? CharClass.read = some (.ok tableGrammar) ∧
      ¬ tableGrammar.TooDeep none (.ofInput "éa,b(cd)") 20 ∧
      tableGrammar.parseNested none (.ofInput "éa,b(cd)") 40 =
        tableGrammar.parseNested none (.ofInput "éa,b(cd)") 20 ∧
      tableGrammar.TooDeep none (.ofInput "éa,") 7 ∧
      ∃ id call, tableGrammar.startRule? none = some id ∧
        tableGrammar.rules.Calls 7 (.node (tableGrammar.rules.get id).body) (.start "éa,") .initial
          call ∧ call.levels = 0 := by
  have root : tableGrammar.startRule? none = some tableId := rfl
  have within : ¬ tableGrammar.TooDeep none (.ofInput "éa,b(cd)") 20 := by
    rw [tooDeep_iff_exceeded root, not_not]
    decide +kernel
  have beyond : tableGrammar.TooDeep none (.ofInput "éa,") 7 := by
    rw [tooDeep_iff_exceeded root]
    decide +kernel
  obtain ⟨same, -⟩ := limit_only_refuses build?_table none (.ofInput "éa,b(cd)") 20
  obtain ⟨-, exactly⟩ := limit_only_refuses build?_table none (.ofInput "éa,") 7
  exact ⟨build?_table, within, (same within 40 (by decide)).1, beyond, exactly.mp beyond⟩

end Grammar

end PegText
