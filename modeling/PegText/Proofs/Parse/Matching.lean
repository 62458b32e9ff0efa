import PegText.Proofs.Parse.Runs

/-!
Reading derivations backwards: what the match of a node, or its failure, says about the nodes
inside it.
-/

namespace PegText

namespace RuleTable

variable {size : Nat} {rules : RuleTable size} {cursor next : Cursor} {output : Output}

abbrev Matches (rules : RuleTable size) (node : Node size) (cursor : Cursor) (output : Output)
    (next : Cursor) : Prop :=
  rules.Derives False (.node node) cursor (some ([output], next))

abbrev Fails (rules : RuleTable size) (node : Node size) (cursor : Cursor) : Prop :=
  rules.Derives False (.node node) cursor none

theorem Matches.of_literal {text : String} (found : rules.Matches (.literal text) cursor output next) :
    cursor.Passes text.toList next ∧ output = .text (cursor.sliceTo next) := by
  cases found with
  | literal passes => exact ⟨passes, rfl⟩

theorem Fails.of_literal {text : String} (failed : rules.Fails (.literal text) cursor) :
    ¬text.toList <+: cursor.rest := by
  cases failed with
  | gaveUp limited => exact limited.elim
  | literalFails absent => exact absent

theorem Matches.of_any (found : rules.Matches .any cursor output next) :
    ∃ c, cursor.Passes [c] next := by
  cases found with
  | any passes => exact ⟨_, passes⟩

theorem Matches.of_rule {id : Fin size} (found : rules.Matches (.rule id) cursor output next) :
    rules.Matches (rules.get id).body cursor output next := by
  cases found with
  | rule inside => exact inside

theorem Fails.of_rule {id : Fin size} (failed : rules.Fails (.rule id) cursor) :
    rules.Fails (rules.get id).body cursor := by
  cases failed with
  | gaveUp limited => exact limited.elim
  | rule inside => exact inside

theorem Matches.of_capture {name : String} {inner : Node size}
    (found : rules.Matches (.capture name inner) cursor output next) :
    ∃ yielded, rules.Matches inner cursor yielded next ∧
      output = .fields [(name, yielded.toCapture)] := by
  cases found with
  | capture inside => exact ⟨_, inside, rfl⟩

theorem Fails.of_capture {name : String} {inner : Node size}
    (failed : rules.Fails (.capture name inner) cursor) : rules.Fails inner cursor := by
  cases failed with
  | gaveUp limited => exact limited.elim
  | captureFails inside => exact inside

theorem Matches.of_absent {inner : Node size}
    (found : rules.Matches (.absent inner) cursor output next) :
    rules.Fails inner cursor ∧ next = cursor := by
  cases found with
  | absent inside => exact ⟨inside, rfl⟩

theorem Matches.of_choice {branches : List (Node size)}
    (found : rules.Matches (.choice branches) cursor output next) :
    ∃ branch ∈ branches, rules.Matches branch cursor output next := by
  cases found with
  | choice inside =>
      induction branches with
      | nil => cases inside
      | cons branch rest ih =>
          cases inside with
          | branchesFirst first => exact ⟨branch, List.mem_cons_self, first⟩
          | branchesLater _ later =>
              obtain ⟨found, member, matched⟩ := ih later
              exact ⟨found, List.mem_cons_of_mem _ member, matched⟩

theorem Fails.of_choice {branches : List (Node size)}
    (failed : rules.Fails (.choice branches) cursor) :
    ∀ branch ∈ branches, rules.Fails branch cursor := by
  cases failed with
  | gaveUp limited => exact limited.elim
  | choice inside =>
      induction branches with
      | nil => exact List.forall_mem_nil _
      | cons branch rest ih =>
          cases inside with
          | branchesLater first later => exact List.forall_mem_cons.mpr ⟨first, ih later⟩

abbrev InTurn (rules : RuleTable size) (parts : List (Node size)) (cursor : Cursor)
    (outputs : List Output) (stop : Cursor) : Prop :=
  rules.Derives False (.parts parts) cursor (some (outputs, stop))

theorem Matches.of_sequence {parts : List (Node size)}
    (found : rules.Matches (.sequence parts) cursor output next) :
    ∃ outputs, rules.InTurn parts cursor outputs next ∧
      Output.ofSequence cursor next outputs = .ok output := by
  cases found with
  | sequence inside merged => exact ⟨_, inside, merged⟩

variable {part : Node size} {parts : List (Node size)} {outputs : List Output}

theorem InTurn.of_cons (found : rules.InTurn (part :: parts) cursor outputs next) :
    ∃ output middle later, rules.Matches part cursor output middle ∧
      rules.InTurn parts middle later next ∧ outputs = output :: later := by
  cases found with
  | partsCons first later => exact ⟨_, _, _, first, later, rfl⟩

theorem InTurn.of_nil (found : rules.InTurn [] cursor outputs next) :
    next = cursor ∧ outputs = [] := by
  cases found with
  | partsNil => exact ⟨rfl, rfl⟩

/-- A sequence fails at one of its parts, with those in front matched. -/
theorem Fails.of_sequence (failed : rules.Fails (.sequence (part :: parts)) cursor) :
    rules.Fails part cursor ∨
      ∃ output middle, rules.Matches part cursor output middle ∧
        rules.Fails (.sequence parts) middle := by
  cases failed with
  | gaveUp limited => exact limited.elim
  | sequenceFails inside =>
      cases inside with
      | partsFail first => exact .inl first
      | partsFailLater first later => exact .inr ⟨_, _, first, .sequenceFails later⟩

theorem Fails.of_sequence_nil (failed : rules.Fails (.sequence []) cursor) : False := by
  cases failed with
  | gaveUp limited => exact limited
  | sequenceFails inside => cases inside

inductive Rounds (rules : RuleTable size) (inner : Node size) :
    Cursor → List Output → Cursor → Prop
  | nil {stop} : Rounds rules inner stop [] stop
  | cons {start yielded middle outputs stop} : rules.Matches inner start yielded middle →
      Rounds rules inner middle outputs stop →
      Rounds rules inner start (yielded :: outputs) stop

theorem Rounds.of_derives {inner : Node size} {most : Option Nat} {count : Nat}
    (derives : rules.Derives False (.rounds inner most count) cursor (some (outputs, next))) :
    rules.Rounds inner cursor outputs next := by
  generalize target : Goal.rounds inner most count = goal at derives
  generalize ended : some (outputs, next) = result at derives
  induction derives generalizing count outputs next with
  | roundsFull | roundsEnd =>
      cases ended
      exact .nil
  | roundsEmpty _ matched =>
      cases ended
      cases target
      exact .cons matched .nil
  | roundsMore _ matched _ _ _ ih =>
      cases ended
      cases target
      exact .cons matched (ih rfl rfl)
  | _ => cases target

theorem Matches.of_repetition {inner : Node size} {least : Nat} {most : Option Nat}
    {structured : Bool}
    (found : rules.Matches (.repetition inner least most structured) cursor output next) :
    ∃ outputs, rules.Rounds inner cursor outputs next ∧
      output = .ofRounds structured cursor next outputs := by
  cases found with
  | repetition rounds => exact ⟨_, .of_derives rounds, rfl⟩

theorem Fails.of_repetition {inner : Node size} {most : Option Nat} {structured : Bool}
    (failed : rules.Fails (.repetition inner 0 most structured) cursor) : False := by
  cases failed with
  | gaveUp limited => exact limited
  | repetitionFails _ few => exact Nat.not_lt_zero _ few

theorem Accepted.isText_of_matches {limited : Prop} {facts : FactTable size}
    (accepted : rules.Accepted facts) {node : Node size} (within : node ∈ rules.nodes)
    (plain : node.isStructured facts = false)
    (found : rules.Derives limited (.node node) cursor (some ([output], next))) :
    output.isText = true :=
  (found.fits accepted within output List.mem_cons_self).plain plain

end RuleTable

/-- A parse that gives a tree has matched the whole source. -/
theorem Grammar.matches_of_parseWith {grammar : Grammar} {facts : FactTable grammar.size}
    (accepted : grammar.rules.Accepted facts) {id : Fin grammar.size} {source : Source}
    {limit : Nat} {capture : Capture} (parsed : grammar.parseWith id source limit = .ok capture) :
    ∃ output stop,
      grammar.rules.Matches (grammar.rules.get id).body (.start source.text) output stop ∧
        stop.rest = [] ∧ capture = output.toCapture := by
  have sound : Runner.Sound grammar.rules False (grammar.rules.run limit) :=
    RuleTable.run_sound accepted limit
  have derives := sound.derives (grammar.rules.body_mem_nodes id) (.start source.text) .initial
  change conclude source limit (grammar.rules.run limit (grammar.rules.get id).body
    (.start source.text) .initial) = .ok capture at parsed
  rcases ran : grammar.rules.run limit (grammar.rules.get id).body (.start source.text) .initial
    with ⟨outcome, progress⟩
  rw [ran] at derives parsed
  cases settled : progress.exceeded with
  | some position =>
      simp only [conclude, settled] at parsed
      cases parsed
  | none =>
      cases outcome with
      | failed failure =>
          simp only [conclude, settled] at parsed
          cases parsed
      | matched output stop =>
          simp only [conclude, settled] at parsed
          split at parsed
          next atEnd =>
            cases parsed
            exact ⟨output, stop, derives (.inr settled), List.isEmpty_iff.mp atEnd, rfl⟩
          · cases parsed

end PegText
