import PegText.Proofs.Parse.Matching
import PegText.Proofs.Parse.Nesting

/-!
Exactly what nodes match. A node ends in one way only at each cursor, and in an accepted table it
always does, so it fails where it does not match; with that each kind of node is described by one
equivalence.
-/

namespace PegText

variable {size : Nat} {rules : RuleTable size} {facts : FactTable size}

namespace RuleTable.Derives

theorem unique {goal : Goal size} {cursor : Cursor} {result other : Option (List Output × Cursor)}
    (one : rules.Derives False goal cursor result) (two : rules.Derives False goal cursor other) :
    result = other := by
  -- nothing gives up here, so the second derivation ends with the same rule as the first, or with
  -- the one for the opposite outcome, which contradicts what is inside
  induction one generalizing other with
  | gaveUp limited => exact limited.elim
  | literal passes =>
      cases two with
      | gaveUp limited => exact limited.elim
      | literal passes' => rw [passes.unique passes']
      | literalFails absent => exact (absent (passes.rest ▸ List.prefix_append _ _)).elim
  | literalFails absent =>
      cases two with
      | literal passes => exact (absent (passes.rest ▸ List.prefix_append _ _)).elim
      | gaveUp | literalFails => rfl
  | char passes =>
      cases two with
      | gaveUp limited => exact limited.elim
      | char passes' => rw [passes.unique passes']
      | charFails different => exact (different passes.head?).elim
  | charFails different =>
      cases two with
      | char passes => exact (different passes.head?).elim
      | gaveUp | charFails => rfl
  | charClass accepted passes =>
      cases two with
      | gaveUp limited => exact limited.elim
      | charClass _ passes' => rw [passes.char_unique passes']
      | charClassFails refused => simp [refused _ passes.head?] at accepted
  | charClassFails refused =>
      cases two with
      | charClass accepted passes => simp [refused _ passes.head?] at accepted
      | gaveUp | charClassFails => rfl
  | any passes =>
      cases two with
      | gaveUp limited => exact limited.elim
      | any passes' => rw [passes.char_unique passes']
      | anyFails ended => simp [passes.rest] at ended
  | anyFails ended =>
      cases two with
      | any passes => simp [passes.rest] at ended
      | gaveUp | anyFails => rfl
  | sequence _ merged ih =>
      cases two with
      | gaveUp limited => exact limited.elim
      | sequence inside merged' =>
          cases ih inside
          cases merged.symm.trans merged'
          rfl
      | sequenceFails inside => cases ih inside
  | sequenceFails _ ih =>
      cases two with
      | sequence inside => cases ih inside
      | gaveUp | sequenceFails => rfl
  | choice _ ih =>
      cases two with
      | gaveUp limited => exact limited.elim
      | choice inside => exact ih inside
  | repetition _ enough ih =>
      cases two with
      | gaveUp limited => exact limited.elim
      | repetition inside =>
          cases ih inside
          rfl
      | repetitionFails inside few =>
          cases ih inside
          omega
  | repetitionFails _ few ih =>
      cases two with
      | repetition inside enough =>
          cases ih inside
          omega
      | gaveUp | repetitionFails => rfl
  | absent _ ih =>
      cases two with
      | gaveUp limited => exact limited.elim
      | absent => rfl
      | absentFails inside => cases ih inside
  | absentFails _ ih =>
      cases two with
      | absent inside => cases ih inside
      | gaveUp | absentFails => rfl
  | capture _ ih =>
      cases two with
      | gaveUp limited => exact limited.elim
      | capture inside =>
          cases ih inside
          rfl
      | captureFails inside => cases ih inside
  | captureFails _ ih =>
      cases two with
      | capture inside => cases ih inside
      | gaveUp | captureFails => rfl
  | rule _ ih =>
      cases two with
      | gaveUp limited => exact limited.elim
      | rule inside => exact ih inside
  | partsNil =>
      cases two
      rfl
  | partsCons _ _ ih ihLater =>
      cases two with
      | partsCons first later =>
          cases ih first
          cases ihLater later
          rfl
      | partsFail first => cases ih first
      | partsFailLater first later =>
          cases ih first
          cases ihLater later
  | partsFail _ ih =>
      cases two with
      | partsCons first => cases ih first
      | partsFail | partsFailLater => rfl
  | partsFailLater _ _ ih ihLater =>
      cases two with
      | partsCons first later =>
          cases ih first
          cases ihLater later
      | partsFail | partsFailLater => rfl
  | branchesNil =>
      cases two
      rfl
  | branchesFirst _ ih =>
      cases two with
      | branchesFirst first => exact ih first
      | branchesLater first => cases ih first
  | branchesLater _ _ ih ihLater =>
      cases two with
      | branchesFirst first => cases ih first
      | branchesLater _ later => exact ihLater later
  | roundsFull full =>
      cases two with
      | roundsFull | roundsEnd => rfl
      | roundsEmpty notFull | roundsMore notFull => simp [full] at notFull
  | roundsEnd notFull _ ih =>
      cases two with
      | roundsFull | roundsEnd => rfl
      | roundsEmpty _ first | roundsMore _ first => cases ih first
  | roundsEmpty notFull _ same ih =>
      cases two with
      | roundsFull full => simp [full] at notFull
      | roundsEnd _ first => cases ih first
      | roundsEmpty _ first => exact ih first
      | roundsMore _ first further =>
          cases ih first
          exact (further same).elim
  | roundsMore notFull _ further _ ih ihLater =>
      cases two with
      | roundsFull full => simp [full] at notFull
      | roundsEnd _ first => cases ih first
      | roundsEmpty _ first same =>
          cases ih first
          exact (further same).elim
      | roundsMore _ first _ later =>
          cases ih first
          cases ihLater later
          rfl

end RuleTable.Derives

namespace RuleTable

variable {node inner part branch : Node size} {parts branches : List (Node size)}
  {cursor next : Cursor} {output : Output} {outputs : List Output}

theorem Matches.unique {other : Output} {stop : Cursor}
    (one : rules.Matches node cursor output next) (two : rules.Matches node cursor other stop) :
    output = other ∧ next = stop := by
  have same := Option.some.inj (Derives.unique one two)
  simpa using same

theorem Matches.not_fails (found : rules.Matches node cursor output next) :
    ¬rules.Fails node cursor :=
  fun failed => Option.some_ne_none _ (Derives.unique found failed)

theorem Accepted.matches_or_fails (accepted : rules.Accepted facts) (within : node ∈ rules.nodes)
    (cursor : Cursor) :
    (∃ output next, rules.Matches node cursor output next) ∨ rules.Fails node cursor := by
  let levels := rules.weight facts node + rules.nodeCount * String.utf8Len cursor.rest
  have settled := run_shallow accepted levels within cursor .initial rfl (Nat.le_refl _)
  have sound : Runner.Sound rules False (rules.run levels) := run_sound accepted levels
  have derives := sound.derives within cursor .initial (.inr settled)
  cases ended : (rules.run levels node cursor .initial).1 with
  | matched output next =>
      rw [ended] at derives
      exact .inl ⟨output, next, derives⟩
  | failed failure =>
      rw [ended] at derives
      exact .inr derives

theorem Accepted.fails_iff (accepted : rules.Accepted facts) (within : node ∈ rules.nodes) :
    rules.Fails node cursor ↔ ∀ output next, ¬rules.Matches node cursor output next := by
  constructor
  · intro failed output next found
    exact found.not_fails failed
  · intro none
    rcases accepted.matches_or_fails within cursor with ⟨output, next, found⟩ | failed
    · exact (none output next found).elim
    · exact failed

theorem matches_literal {text : String} :
    rules.Matches (.literal text) cursor output next ↔
      cursor.Passes text.toList next ∧ output = .text (cursor.sliceTo next) := by
  constructor
  · exact Matches.of_literal
  · rintro ⟨passes, rfl⟩
    exact .literal passes

theorem fails_literal {text : String} :
    rules.Fails (.literal text) cursor ↔ ¬text.toList <+: cursor.rest :=
  ⟨Fails.of_literal, .literalFails⟩

theorem matches_char {c : Char} :
    rules.Matches (.char c) cursor output next ↔
      cursor.Passes [c] next ∧ output = .text (cursor.sliceTo next) := by
  constructor
  · intro found
    cases found with
    | char passes => exact ⟨passes, rfl⟩
  · rintro ⟨passes, rfl⟩
    exact .char passes

theorem fails_char {c : Char} :
    rules.Fails (.char c) cursor ↔ cursor.rest.head? ≠ some c := by
  refine ⟨fun failed => ?_, .charFails⟩
  cases failed with
  | gaveUp limited => exact limited.elim
  | charFails different => exact different

theorem matches_charClass {text : String} {accepts : Char → Bool} :
    rules.Matches (.charClass text accepts) cursor output next ↔
      ∃ c, accepts c = true ∧ cursor.Passes [c] next ∧ output = .text (cursor.sliceTo next) := by
  constructor
  · intro found
    cases found with
    | charClass accepted passes => exact ⟨_, accepted, passes, rfl⟩
  · rintro ⟨c, accepted, passes, rfl⟩
    exact .charClass accepted passes

theorem fails_charClass {text : String} {accepts : Char → Bool} :
    rules.Fails (.charClass text accepts) cursor ↔
      ∀ c, cursor.rest.head? = some c → accepts c = false := by
  refine ⟨fun failed => ?_, .charClassFails⟩
  cases failed with
  | gaveUp limited => exact limited.elim
  | charClassFails refused => exact refused

theorem matches_any :
    rules.Matches .any cursor output next ↔
      ∃ c, cursor.Passes [c] next ∧ output = .text (cursor.sliceTo next) := by
  constructor
  · intro found
    cases found with
    | any passes => exact ⟨_, passes, rfl⟩
  · rintro ⟨c, passes, rfl⟩
    exact .any passes

theorem matches_rule {id : Fin size} :
    rules.Matches (.rule id) cursor output next ↔
      rules.Matches (rules.get id).body cursor output next :=
  ⟨Matches.of_rule, .rule⟩

theorem fails_rule {id : Fin size} :
    rules.Fails (.rule id) cursor ↔ rules.Fails (rules.get id).body cursor :=
  ⟨Fails.of_rule, .rule⟩

theorem matches_capture {name : String} :
    rules.Matches (.capture name inner) cursor output next ↔
      ∃ yielded, rules.Matches inner cursor yielded next ∧
        output = .fields [(name, yielded.toCapture)] := by
  constructor
  · exact Matches.of_capture
  · rintro ⟨yielded, inside, rfl⟩
    exact .capture inside

theorem fails_capture {name : String} :
    rules.Fails (.capture name inner) cursor ↔ rules.Fails inner cursor :=
  ⟨Fails.of_capture, .captureFails⟩

theorem matches_absent :
    rules.Matches (.absent inner) cursor output next ↔
      rules.Fails inner cursor ∧ next = cursor ∧ output = .text (cursor.sliceTo next) := by
  constructor
  · intro found
    cases found with
    | absent inside => exact ⟨inside, rfl, rfl⟩
  · rintro ⟨inside, rfl, rfl⟩
    exact .absent inside

theorem fails_absent :
    rules.Fails (.absent inner) cursor ↔ ∃ output next, rules.Matches inner cursor output next := by
  constructor
  · intro failed
    cases failed with
    | gaveUp limited => exact limited.elim
    | absentFails inside => exact ⟨_, _, inside⟩
  · rintro ⟨output, next, found⟩
    exact .absentFails found

theorem matches_choice_nil : ¬rules.Matches (.choice []) cursor output next := by
  intro found
  cases found with
  | choice inside => cases inside

theorem matches_choice_cons :
    rules.Matches (.choice (branch :: branches)) cursor output next ↔
      rules.Matches branch cursor output next ∨
        rules.Fails branch cursor ∧ rules.Matches (.choice branches) cursor output next := by
  constructor
  · intro found
    cases found with
    | choice inside =>
        cases inside with
        | branchesFirst first => exact .inl first
        | branchesLater first later => exact .inr ⟨first, .choice later⟩
  · rintro (first | ⟨failed, later⟩)
    · exact .choice (.branchesFirst first)
    · cases later with
      | choice inside => exact .choice (.branchesLater failed inside)

theorem fails_choice :
    rules.Fails (.choice branches) cursor ↔ ∀ branch ∈ branches, rules.Fails branch cursor := by
  constructor
  · exact Fails.of_choice
  · intro all
    refine .choice ?_
    induction branches with
    | nil => exact .branchesNil
    | cons branch rest ih =>
        obtain ⟨first, later⟩ := List.forall_mem_cons.mp all
        exact .branchesLater first (ih later)

theorem matches_sequence :
    rules.Matches (.sequence parts) cursor output next ↔
      ∃ outputs, rules.InTurn parts cursor outputs next ∧
        Output.ofSequence cursor next outputs = .ok output := by
  constructor
  · exact Matches.of_sequence
  · rintro ⟨outputs, inTurn, merged⟩
    exact .sequence inTurn merged

theorem fails_sequence_nil : ¬rules.Fails (.sequence []) cursor :=
  Fails.of_sequence_nil

theorem fails_sequence_cons :
    rules.Fails (.sequence (part :: parts)) cursor ↔
      rules.Fails part cursor ∨
        ∃ output middle, rules.Matches part cursor output middle ∧
          rules.Fails (.sequence parts) middle := by
  constructor
  · exact Fails.of_sequence
  · rintro (first | ⟨output, middle, found, failed⟩)
    · exact .sequenceFails (.partsFail first)
    · cases failed with
      | gaveUp limited => exact limited.elim
      | sequenceFails inside => exact .sequenceFails (.partsFailLater found inside)

def Consumes (rules : RuleTable size) (node : Node size) : Prop :=
  ∀ {cursor output next}, rules.Matches node cursor output next → next.offset ≠ cursor.offset

theorem Accepted.consumes (accepted : rules.Accepted facts)
    (filled : node.isNullable facts = false) : rules.Consumes node := by
  intro cursor output next found same
  have nullable : node.isNullable facts = true := found.nullable accepted same
  rw [filled] at nullable
  cases nullable

theorem derives_rounds {count : Nat} (consumes : rules.Consumes inner) :
    rules.Derives False (.rounds inner none count) cursor (some (outputs, next)) ↔
      rules.Rounds inner cursor outputs next ∧ rules.Fails inner next := by
  constructor
  · intro derives
    refine ⟨.of_derives derives, ?_⟩
    generalize target : Goal.rounds inner none count = goal at derives
    generalize ended : some (outputs, next) = result at derives
    induction derives generalizing count outputs next with
    | roundsFull full =>
        cases target
        cases full
    | roundsEnd _ failed =>
        cases target
        cases ended
        exact failed
    | roundsEmpty _ found same =>
        cases target
        exact (consumes found same).elim
    | roundsMore _ _ _ _ _ ih =>
        cases target
        cases ended
        exact ih rfl rfl
    | _ => cases target
  · rintro ⟨rounds, failed⟩
    induction rounds generalizing count with
    | nil => exact .roundsEnd rfl failed
    | cons found _ ih => exact .roundsMore rfl found (consumes found) (ih failed)

theorem matches_repetition {least : Nat} {structured : Bool} (consumes : rules.Consumes inner) :
    rules.Matches (.repetition inner least none structured) cursor output next ↔
      ∃ outputs, rules.Rounds inner cursor outputs next ∧ rules.Fails inner next ∧
        least ≤ outputs.length ∧ output = .ofRounds structured cursor next outputs := by
  constructor
  · intro found
    cases found with
    | repetition rounds enough =>
        obtain ⟨inside, failed⟩ := (derives_rounds consumes).mp rounds
        exact ⟨_, inside, failed, enough, rfl⟩
  · rintro ⟨outputs, inside, failed, enough, rfl⟩
    exact .repetition ((derives_rounds consumes).mpr ⟨inside, failed⟩) enough

theorem matches_maybe {structured : Bool} :
    rules.Matches (.repetition inner 0 (some 1) structured) cursor output next ↔
      (∃ yielded, rules.Matches inner cursor yielded next ∧
        output = .ofRounds structured cursor next [yielded]) ∨
      rules.Fails inner cursor ∧ next = cursor ∧
        output = .ofRounds structured cursor next [] := by
  constructor
  · intro found
    cases found with
    | repetition rounds =>
        cases rounds with
        | roundsFull full => cases full
        | roundsEnd _ failed => exact .inr ⟨failed, rfl, rfl⟩
        | roundsEmpty _ one => exact .inl ⟨_, one, rfl⟩
        | roundsMore _ one _ later =>
            cases later with
            | roundsFull => exact .inl ⟨_, one, rfl⟩
            | roundsEnd notFull | roundsEmpty notFull | roundsMore notFull => cases notFull
  · rintro (⟨yielded, one, rfl⟩ | ⟨failed, rfl, rfl⟩)
    · refine .repetition ?_ (Nat.zero_le _)
      by_cases same : next.offset = cursor.offset
      · exact .roundsEmpty rfl one same
      · exact .roundsMore rfl one same (.roundsFull rfl)
    · exact .repetition (.roundsEnd rfl failed) (Nat.le_refl 0)

end RuleTable

namespace Grammar

variable {grammar : Grammar} {facts : FactTable grammar.size} {id : Fin grammar.size}
  {source : Source} {limit : Nat}

/-- A parse that never exceeds its limit gives a tree exactly if the rule matches the whole
source. -/
theorem parseWith_eq_ok (accepted : grammar.rules.Accepted facts)
    (settled : (grammar.run id source.text limit).2.exceeded = none) {capture : Capture} :
    grammar.parseWith id source limit = .ok capture ↔
      ∃ output stop,
        grammar.rules.Matches (.rule id) (.start source.text) output stop ∧
          stop.rest = [] ∧ capture = output.toCapture := by
  constructor
  · intro parsed
    obtain ⟨output, stop, found, ended, same⟩ := matches_of_parseWith accepted parsed
    exact ⟨output, stop, .rule found, ended, same⟩
  · rintro ⟨output, stop, found, ended, rfl⟩
    have sound : Runner.Sound grammar.rules False (grammar.rules.run limit) :=
      RuleTable.run_sound accepted limit
    have derives := sound.derives (grammar.rules.body_mem_nodes id) _ _ (.inr settled)
    change conclude source limit (grammar.run id source.text limit) = _
    rw [run] at settled ⊢
    rcases ran : grammar.rules.run limit (grammar.rules.get id).body (.start source.text) .initial
      with ⟨outcome, progress⟩
    rw [ran] at derives settled
    cases outcome with
    | failed failure => exact (found.of_rule.not_fails derives).elim
    | matched yielded next =>
        obtain ⟨rfl, rfl⟩ := found.of_rule.unique derives
        have atEnd : stop.isAtEnd = true := List.isEmpty_iff.mpr ended
        have fine : progress.exceeded = none := settled
        simp only [conclude, fine]
        exact if_pos atEnd

end Grammar

end PegText
