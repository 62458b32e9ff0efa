import PegText.Proofs.Parse.Exact
import PegText.Proofs.Parse.Simulation

/-!
Runs and derivations agree. A run that stays within its limit ends exactly as the derivation of its
node says, whatever was noted before it; and a parse gives a tree exactly if its rule matches the
whole source.
-/

namespace PegText

variable {size : Nat} {rules : RuleTable size} {facts : FactTable size}

theorem Progress.likeness_exceeded :
    Likeness fun progress other => other.exceeded = progress.exceeded where
  settled same fine := same.trans fine
  note same position expected := by rw [exceeded_note, exceeded_note, same]
  enter same := same
  leave same := same

namespace RuleTable

variable {levels : Nat} {node : Node size} {cursor : Cursor} {progress : Progress}

/-- What was noted before a run decides nothing about its end. -/
theorem run_outcome_eq (rules : RuleTable size) {other : Progress}
    (settled : (rules.run levels node cursor progress).2.exceeded = none)
    (fine : other.exceeded = none) :
    (rules.run levels node cursor other).1 = (rules.run levels node cursor progress).1 := by
  have before : progress.exceeded = none :=
    rules.run_lasts Progress.lasting_exceeded levels node cursor progress settled
  have follows := rules.run_follows Progress.likeness_exceeded (Nat.le_refl levels) node cursor
    (fine.trans before.symm)
  exact (follows settled).1

theorem Accepted.derives_of_run (accepted : rules.Accepted facts) (within : node ∈ rules.nodes)
    (settled : (rules.run levels node cursor progress).2.exceeded = none) :
    rules.Derives False (.node node) cursor (rules.run levels node cursor progress).1.result := by
  have sound : Runner.Sound rules False (rules.run levels) := run_sound accepted levels
  exact sound.derives within cursor progress (.inr settled)

theorem Accepted.run_eq_matched_iff (accepted : rules.Accepted facts) (within : node ∈ rules.nodes)
    (settled : (rules.run levels node cursor progress).2.exceeded = none) {output : Output}
    {next : Cursor} :
    (rules.run levels node cursor progress).1 = .matched output next ↔
      rules.Matches node cursor output next := by
  have derives := accepted.derives_of_run within settled
  constructor
  · intro ended
    rwa [ended] at derives
  · intro found
    cases ended : (rules.run levels node cursor progress).1 with
    | matched yielded stop =>
        rw [ended] at derives
        obtain ⟨rfl, rfl⟩ := found.unique derives
        rfl
    | failed failure =>
        rw [ended] at derives
        exact (found.not_fails derives).elim

theorem Accepted.run_eq_failed_iff (accepted : rules.Accepted facts) (within : node ∈ rules.nodes)
    (settled : (rules.run levels node cursor progress).2.exceeded = none) :
    (∃ failure, (rules.run levels node cursor progress).1 = .failed failure) ↔
      rules.Fails node cursor := by
  have derives := accepted.derives_of_run within settled
  constructor
  · rintro ⟨failure, ended⟩
    rwa [ended] at derives
  · intro failed
    cases ended : (rules.run levels node cursor progress).1 with
    | matched output next =>
        rw [ended] at derives
        exact (Matches.not_fails derives failed).elim
    | failed failure => exact ⟨failure, rfl⟩

end RuleTable

namespace Grammar

section

variable {grammar : Grammar} {rule : Option String} {id : Fin grammar.size}

def startRule? (grammar : Grammar) : Option String → Option (Fin grammar.size)
  | none => some grammar.root
  | some name => grammar.ruleId? name

theorem parseNested_eq_parseWith (known : grammar.startRule? rule = some id) (source : Source)
    (limit : Nat) : grammar.parseNested rule source limit = grammar.parseWith id source limit := by
  cases rule with
  | none =>
      cases known
      rfl
  | some name =>
      have found : grammar.ruleId? name = some id := known
      rw [parseNested, found]

theorem parseNested_unknown (unknown : grammar.startRule? rule = none) (source : Source)
    (limit : Nat) :
    grammar.parseNested rule source limit =
      .error (.ofCause (.unknownRule grammar.name (rule.getD ""))) := by
  cases rule with
  | none => cases unknown
  | some name =>
      have absent : grammar.ruleId? name = none := unknown
      rw [parseNested, absent]
      rfl

theorem settled_of_parseWith {source : Source} {limit : Nat} {capture : Capture}
    (parsed : grammar.parseWith id source limit = .ok capture) :
    (grammar.run id source.text limit).2.exceeded = none := by
  cases exceeded : (grammar.run id source.text limit).2.exceeded with
  | none => rfl
  | some position =>
      have refused : grammar.parseWith id source limit = .error (tooDeep source limit position) :=
        conclude_of_exceeded source limit exceeded
      rw [parsed] at refused
      cases refused

theorem parseNested_eq_ok {facts : FactTable grammar.size} (accepted : grammar.rules.Accepted facts)
    {source : Source} {limit : Nat} {capture : Capture} :
    grammar.parseNested rule source limit = .ok capture ↔
      ∃ id output stop, grammar.startRule? rule = some id ∧
        (grammar.run id source.text limit).2.exceeded = none ∧
        grammar.rules.Matches (.rule id) (.start source.text) output stop ∧ stop.rest = [] ∧
          capture = output.toCapture := by
  cases known : grammar.startRule? rule with
  | none => simp [parseNested_unknown known]
  | some id =>
      rw [parseNested_eq_parseWith known]
      constructor
      · intro parsed
        have settled := settled_of_parseWith parsed
        obtain ⟨output, stop, found, ended, same⟩ := (parseWith_eq_ok accepted settled).mp parsed
        exact ⟨id, output, stop, rfl, settled, found, ended, same⟩
      · rintro ⟨_, output, stop, here, settled, found, ended, same⟩
        cases here
        exact (parseWith_eq_ok accepted settled).mpr ⟨output, stop, found, ended, same⟩

end

namespace Draft

/-- A grammar that was built is run as its derivations say: a node matches with an output where it
is derived to, fails where its failure is derived, at any place and with any progress that leaves
room, and what was noted before makes no difference; and a parse gives a tree exactly if the rule
matches up to the end of the source. -/
theorem run_implements_derivations {read : CharClass.Reader} {draft : Draft} {grammar : Grammar}
    (built : draft.build? read = some (.ok grammar)) :
    (∀ node ∈ grammar.rules.nodes, ∀ levels cursor progress,
      (grammar.rules.run levels node cursor progress).2.exceeded = none →
        (∀ output next,
          (grammar.rules.run levels node cursor progress).1 = .matched output next ↔
            grammar.rules.Matches node cursor output next) ∧
        ((∃ failure, (grammar.rules.run levels node cursor progress).1 = .failed failure) ↔
          grammar.rules.Fails node cursor) ∧
        ∀ other : Progress, other.exceeded = none →
          (grammar.rules.run levels node cursor other).1 =
            (grammar.rules.run levels node cursor progress).1) ∧
    ∀ rule source limit capture,
      grammar.parseNested rule source limit = .ok capture ↔
        ∃ id output stop, grammar.startRule? rule = some id ∧
          (grammar.run id source.text limit).2.exceeded = none ∧
          grammar.rules.Matches (.rule id) (.start source.text) output stop ∧ stop.rest = [] ∧
            capture = output.toCapture := by
  obtain ⟨facts, accepted⟩ := accepted_of_build? built
  refine ⟨fun node within levels cursor progress settled => ⟨fun output next => ?_, ?_, ?_⟩,
    fun rule source limit capture => parseNested_eq_ok accepted⟩
  · exact accepted.run_eq_matched_iff within settled
  · exact accepted.run_eq_failed_iff within settled
  · exact fun other fine => grammar.rules.run_outcome_eq settled fine

open Matcher

/-- Keys with values, one character each, separated by commas; a value may be a table in
parentheses. -/
def table : Draft :=
  .ofRules "table"
    [("table", rule "entry" >>> (char ',' >>> rule "entry").atLeast 0),
     ("entry",
      any.named "key" >>>
        ((char '(' >>> rule "table" >>> char ')') ||| ((char '(').absent >>> any)).named "value")]

def tableId : Fin 2 := ⟨0, Nat.zero_lt_two⟩

def entryId : Fin 2 := ⟨1, Nat.one_lt_two⟩

def tableCompiled (structured : Bool) : RuleTable 2 :=
  #v[⟨"table",
      .sequence
        [.rule entryId,
          .repetition (.sequence [.char ',', .rule entryId]) 0 none structured]⟩,
    ⟨"entry",
      .sequence
        [.capture "key" .any,
          .capture "value"
            (.choice
              [.sequence [.char '(', .rule tableId, .char ')'],
                .sequence [.absent (.char '('), .any]])]⟩]

def tableRules : RuleTable 2 := tableCompiled true

def tableGrammar : Grammar := ⟨"table", 2, tableRules, tableId, defaultMaxNesting⟩

theorem build?_table : table.build? CharClass.read = some (.ok tableGrammar) := by
  let facts : FactTable 2 := #v[⟨true, true, [], false⟩, ⟨true, false, ["key", "value"], false⟩]
  have resolved : table.resolve CharClass.read = .ok (tableCompiled false, tableId) := by
    with_unfolding_all rfl
  have settled : (tableCompiled false).facts? = some facts :=
    RuleTable.facts?_eq_some (show (tableCompiled false).after 2 = facts by decide +kernel)
      (by decide +kernel)
  have marked : (tableCompiled false).marked facts = tableRules := by
    with_unfolding_all rfl
  have checked : check (tableCompiled false) facts = .ok () := by
    with_unfolding_all rfl
  exact build?_eq_ok resolved settled checked marked

def entryNode : Node tableGrammar.size := .rule entryId

def secondEntry : Cursor := ⟨4, "b(cd)".toList⟩

def lookingAhead : Progress := ⟨9, ["','"], 1, none⟩

theorem entryNode_mem : entryNode ∈ tableGrammar.rules.nodes :=
  RuleTable.mem_nodes.mpr ⟨tableId, Node.mem_nodes_sequence List.mem_cons_self⟩

theorem run_implements_derivations_table :
    table.build? CharClass.read = some (.ok tableGrammar) ∧ entryNode ∈ tableGrammar.rules.nodes ∧
      (tableGrammar.rules.run 20 entryNode secondEntry lookingAhead).2.exceeded = none ∧
      (∀ output next,
        (tableGrammar.rules.run 20 entryNode secondEntry lookingAhead).1 = .matched output next ↔
          tableGrammar.rules.Matches entryNode secondEntry output next) ∧
      ((∃ failure,
          (tableGrammar.rules.run 20 entryNode secondEntry lookingAhead).1 = .failed failure) ↔
        tableGrammar.rules.Fails entryNode secondEntry) ∧
      (tableGrammar.rules.run 20 entryNode secondEntry .initial).1 =
        (tableGrammar.rules.run 20 entryNode secondEntry lookingAhead).1 ∧
      ∀ capture,
        tableGrammar.parseNested none (.ofInput "éa,b(cd)") 20 = .ok capture ↔
          ∃ id output stop, tableGrammar.startRule? none = some id ∧
            (tableGrammar.run id "éa,b(cd)" 20).2.exceeded = none ∧
            tableGrammar.rules.Matches (.rule id) (.start "éa,b(cd)") output stop ∧
              stop.rest = [] ∧ capture = output.toCapture := by
  have settled :
      (tableGrammar.rules.run 20 entryNode secondEntry lookingAhead).2.exceeded = none := by
    decide +kernel
  obtain ⟨runs, parses⟩ := run_implements_derivations build?_table
  obtain ⟨found, failed, same⟩ := runs entryNode entryNode_mem 20 secondEntry lookingAhead settled
  exact ⟨build?_table, entryNode_mem, settled, found, failed, same .initial rfl,
    parses none (.ofInput "éa,b(cd)") 20⟩

end Draft

end Grammar

end PegText
