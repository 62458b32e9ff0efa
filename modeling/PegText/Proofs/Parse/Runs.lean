import PegText.Proofs.Parse.Fits
import PegText.Proofs.Parse.Progress

/-!
Runs and derivations. Every run of an accepted table that has not exceeded its limit, and with
`limited` every run at all, ends as a derivation says. In particular none ends at a name that the
parts of a sequence share.
-/

namespace PegText

variable {size : Nat} {facts : FactTable size} {rules : RuleTable size} {limited : Prop}

def Outcome.result : Outcome → Option (List Output × Cursor)
  | matched output next => some ([output], next)
  | failed _ => none

def Progress.Settled (limited : Prop) (progress : Progress) : Prop :=
  limited ∨ progress.exceeded = none

theorem Progress.lasting_settled :
    Lasting fun before after => after.Settled limited → before.Settled limited where
  refl _ := id
  trans one two := fun later => one (two later)
  note progress position expected := .imp_right (lasting_exceeded.note progress position expected)
  exceed progress position := .imp_right (lasting_exceeded.exceed progress position)
  lookahead inside := inside

namespace Runner

structure Sound (rules : RuleTable size) (limited : Prop) (run : Runner size) : Prop where
  keeps : ∀ node cursor progress,
    (run node cursor progress).2.Settled limited → progress.Settled limited
  derives : ∀ {node}, node ∈ rules.nodes → ∀ cursor progress,
    (run node cursor progress).2.Settled limited →
      rules.Derives limited (.node node) cursor (run node cursor progress).1.result

variable {run : Runner size}

theorem parts_derives (sound : run.Sound rules limited) {parts : List (Node size)}
    (within : ∀ part ∈ parts, part ∈ rules.nodes) (cursor : Cursor) (progress : Progress)
    (settled : (run.parts parts cursor progress).2.Settled limited) :
    rules.Derives limited (.parts parts) cursor (run.parts parts cursor progress).1.toOption := by
  induction parts generalizing cursor progress with
  | nil => exact .partsNil
  | cons part rest ih =>
      obtain ⟨here, behind⟩ := List.forall_mem_cons.mp within
      have first := sound.derives here cursor progress
      rw [Runner.parts] at settled ⊢
      rcases ran : run part cursor progress with ⟨outcome, between⟩
      rw [ran] at settled first
      cases outcome with
      | failed failure => exact .partsFail (first settled)
      | matched output next =>
          have later := ih behind next between
          have before := parts_lasts Progress.lasting_settled sound.keeps rest next between
          rcases ranLater : run.parts rest next between with ⟨ended, after⟩
          rw [ranLater] at later before
          simp only [ranLater] at settled ⊢
          cases ended with
          | error failure => exact .partsFailLater (first (before settled)) (later settled)
          | ok yielded => exact .partsCons (first (before settled)) (later settled)

theorem branches_derives (sound : run.Sound rules limited) {branches : List (Node size)}
    (within : ∀ branch ∈ branches, branch ∈ rules.nodes) (cursor : Cursor)
    (deepest : Option Failure) (progress : Progress)
    (settled : (run.branches cursor branches deepest progress).2.Settled limited) :
    rules.Derives limited (.branches branches) cursor
      (run.branches cursor branches deepest progress).1.result := by
  induction branches generalizing deepest progress with
  | nil =>
      cases deepest with
      | none => exact .branchesNil
      | some deepest => exact .branchesNil
  | cons branch rest ih =>
      obtain ⟨here, behind⟩ := List.forall_mem_cons.mp within
      have first := sound.derives here cursor progress
      rw [Runner.branches] at settled ⊢
      rcases ran : run branch cursor progress with ⟨outcome, between⟩
      rw [ran] at first
      simp only [ran] at settled ⊢
      cases outcome with
      | matched output next => exact .branchesFirst (first settled)
      | failed failure =>
          have before :=
            branches_lasts Progress.lasting_settled sound.keeps cursor rest _ between settled
          exact .branchesLater (first before) (ih behind _ between settled)

theorem rounds_derives (sound : run.Sound rules limited) {inner : Node size}
    (within : inner ∈ rules.nodes) (most : Option Nat) {bound : List Char} (count : Nat)
    (outputs : List Output) {cursor : Cursor} (progress : Progress)
    (bounded : cursor.rest.length ≤ bound.length)
    (settled : (run.rounds inner most bound count outputs cursor progress).2.Settled limited) :
    ∃ more,
      (run.rounds inner most bound count outputs cursor progress).1.outputs =
        outputs.reverse ++ more ∧
      rules.Derives limited (.rounds inner most count) cursor
        (some (more, (run.rounds inner most bound count outputs cursor progress).1.stop)) := by
  have first {cursor : Cursor} {progress between : Progress} {outcome : Outcome}
      (ran : run inner cursor progress = (outcome, between)) (settled : between.Settled limited) :
      rules.Derives limited (.node inner) cursor outcome.result := by
    have derives := sound.derives within cursor progress
    rw [ran] at derives
    exact derives settled
  fun_induction Runner.rounds run inner most bound count outputs cursor progress with
  | case1 _ _ _ _ _ full => exact ⟨[], by simp, .roundsFull full⟩
  | case2 _ _ _ _ _ notFull _ _ ran =>
      rw [Bool.not_eq_true] at notFull
      exact ⟨[], by simp, .roundsEnd notFull (first ran settled)⟩
  | case3 _ _ _ _ _ notFull output _ _ ran same =>
      rw [Bool.not_eq_true] at notFull
      exact ⟨[output], by simp, .roundsEmpty notFull (first ran settled) same⟩
  | case4 _ _ _ _ _ _ _ _ ran further =>
      -- no character was left that this round could have consumed
      obtain ⟨_, passes⟩ := (first ran settled).passes
      have shorter := (passes.rest_lt further).1
      rw [List.length_nil] at bounded
      omega
  | case5 count outputs _ _ notFull output next between ran further _ bound ih =>
      rw [Bool.not_eq_true] at notFull
      have before := rounds_lasts Progress.lasting_settled sound.keeps inner most bound
        (count + 1) (output :: outputs) next between settled
      obtain ⟨_, passes⟩ := (first ran before).passes
      have shorter := (passes.rest_lt further).1
      rw [List.length_cons] at bounded
      obtain ⟨more, yielded, later⟩ := ih (by omega) settled
      refine ⟨output :: more, ?_, .roundsMore notFull (first ran before) further later⟩
      rw [yielded, List.reverse_cons, List.append_assoc, List.singleton_append]

theorem sequence_derives (accepted : rules.Accepted facts) (sound : run.Sound rules limited)
    {parts : List (Node size)} (within : .sequence parts ∈ rules.nodes) (cursor : Cursor)
    (progress : Progress)
    (settled : (run.node rules (.sequence parts) cursor progress).2.Settled limited) :
    rules.Derives limited (.node (.sequence parts)) cursor
      (run.node rules (.sequence parts) cursor progress).1.result := by
  have withinParts : ∀ part ∈ parts, part ∈ rules.nodes := fun part member =>
    RuleTable.mem_nodes_of_inner within (Node.mem_nodes_sequence member)
  have inside := parts_derives sound withinParts cursor progress
  simp only [Runner.node] at settled ⊢
  rcases ran : run.parts parts cursor progress with ⟨ended, after⟩
  rw [ran] at inside
  simp only [ran] at settled ⊢
  cases ended with
  | error failure => exact .sequenceFails (inside settled)
  | ok yielded =>
      have settledAfter : after.Settled limited := by
        simp only at settled
        split at settled
        · exact settled
        · exact Progress.lasting_settled.note after _ _ settled
      have derives := inside settledAfter
      have distinct := Node.names_nodup (derives.fits accepted withinParts)
        (accepted.nodup_keysInTurn within)
      obtain ⟨output, merged, _⟩ :=
        Output.ofSequence_sequenced cursor yielded.2 distinct
      simp only [merged]
      exact .sequence derives merged

theorem repetition_derives (sound : run.Sound rules limited) {inner : Node size} {least : Nat}
    {most : Option Nat} {structured : Bool}
    (within : .repetition inner least most structured ∈ rules.nodes) (cursor : Cursor)
    (progress : Progress)
    (settled : (run.node rules (.repetition inner least most structured) cursor
      progress).2.Settled limited) :
    rules.Derives limited (.node (.repetition inner least most structured)) cursor
      (run.node rules (.repetition inner least most structured) cursor progress).1.result := by
  have inside := rounds_derives sound
    (RuleTable.mem_nodes_of_inner within Node.mem_nodes_repetition) most 0 [] progress
    (Nat.le_refl cursor.rest.length)
  simp only [Runner.node] at settled ⊢
  rcases ran : run.rounds inner most cursor.rest 0 [] cursor progress with ⟨rounds, after⟩
  rw [ran] at inside
  simp only [ran] at settled ⊢
  have settledAfter : after.Settled limited := by
    split at settled
    · split at settled
      · exact settled
      · exact Progress.lasting_settled.note after _ _ settled
    · exact settled
  obtain ⟨outputs, yielded, derives⟩ := inside settledAfter
  rw [List.reverse_nil, List.nil_append] at yielded
  rw [← yielded] at derives
  split
  next few =>
    split <;> exact .repetitionFails derives few
  next enough => exact .repetition derives (Nat.not_lt.mp enough)

theorem leaf_derives {node : Node size} (leaf : node.IsLeaf) (cursor : Cursor)
    (progress : Progress) :
    rules.Derives limited (.node node) cursor (run.node rules node cursor progress).1.result := by
  cases node with
  | literal text =>
      rw [Runner.node]
      split
      next rest found =>
        rw [List.isPrefixOf?_eq_some_iff_append_eq] at found
        exact .literal (.of_text found.symm)
      next none =>
        refine .literalFails ?_
        rintro ⟨rest, found⟩
        rw [List.isPrefixOf?_eq_some_iff_append_eq.mpr found] at none
        cases none
  | char c =>
      simp only [Runner.node]
      split
      next first rest begins =>
        split
        next same => exact .char (same ▸ .of_char begins)
        next different =>
          refine .charFails ?_
          rw [begins]
          exact fun same => different (Option.some.inj same)
      next ended =>
        refine .charFails ?_
        rw [ended]
        exact (Option.some_ne_none c).symm
  | charClass text accepts =>
      simp only [Runner.node]
      split
      next first rest begins =>
        split
        next accepted => exact .charClass accepted (.of_char begins)
        next refused =>
          refine .charClassFails fun c first => ?_
          rw [begins] at first
          exact Option.some.inj first ▸ Bool.eq_false_iff.mpr refused
      next ended =>
        refine .charClassFails fun c first => ?_
        rw [ended] at first
        cases first
  | any =>
      simp only [Runner.node]
      split
      next first rest begins => exact .any (.of_char begins)
      next ended => exact .anyFails ended
  | sequence | choice | repetition | absent | capture | rule => exact leaf.elim

theorem node_derives (accepted : rules.Accepted facts) (sound : run.Sound rules limited)
    {node : Node size} (within : node ∈ rules.nodes) (cursor : Cursor) (progress : Progress)
    (settled : (run.node rules node cursor progress).2.Settled limited) :
    rules.Derives limited (.node node) cursor (run.node rules node cursor progress).1.result := by
  have leaf (isLeaf : node.IsLeaf) :
      rules.Derives limited (.node node) cursor (run.node rules node cursor progress).1.result :=
    leaf_derives isLeaf cursor progress
  cases node with
  | literal | char | charClass | any => exact leaf trivial
  | sequence parts => exact sequence_derives accepted sound within cursor progress settled
  | choice branches =>
      exact .choice (branches_derives sound
        (fun branch member => RuleTable.mem_nodes_of_inner within (Node.mem_nodes_choice member))
        cursor none progress settled)
  | repetition inner least most structured =>
      exact repetition_derives sound within cursor progress settled
  | absent inner =>
      have inside := sound.derives (RuleTable.mem_nodes_of_inner within Node.mem_nodes_absent)
        cursor progress.enterLookahead
      simp only [Runner.node] at settled ⊢
      rcases ran : run inner cursor progress.enterLookahead with ⟨outcome, after⟩
      rw [ran] at inside
      simp only [ran] at settled ⊢
      cases outcome with
      | matched output next =>
          have settledAfter : after.leaveLookahead.Settled limited :=
            Progress.lasting_settled.note _ _ _ settled
          exact .absentFails (inside settledAfter)
      | failed failure => exact .absent (inside settled)
  | capture name inner =>
      have inside := sound.derives (RuleTable.mem_nodes_of_inner within Node.mem_nodes_capture)
        cursor progress
      simp only [Runner.node] at settled ⊢
      rcases ran : run inner cursor progress with ⟨outcome, after⟩
      rw [ran] at inside
      simp only [ran] at settled ⊢
      cases outcome with
      | matched output next => exact .capture (inside settled)
      | failed failure => exact .captureFails (inside settled)
  | rule id => exact .rule (sound.derives (rules.body_mem_nodes id) cursor progress settled)

end Runner

theorem Progress.settled_exceed {progress : Progress} {cursor : Cursor}
    (settled : (progress.exceed cursor).2.Settled limited) : limited :=
  settled.resolve_right (Option.some_ne_none _)

theorem RuleTable.run_sound (accepted : rules.Accepted facts) (levels : Nat) :
    Runner.Sound rules limited (rules.run levels) := by
  induction levels with
  | zero =>
      exact ⟨rules.run_lasts Progress.lasting_settled 0,
        fun _ _ _ settled => .gaveUp (Progress.settled_exceed settled)⟩
  | succ levels ih =>
      refine ⟨rules.run_lasts Progress.lasting_settled (levels + 1), ?_⟩
      intro node within cursor progress settled
      rw [RuleTable.run_succ] at settled ⊢
      split
      next exceeded =>
        rw [if_pos exceeded] at settled
        exact .gaveUp (Progress.settled_exceed settled)
      next notYet =>
        rw [if_neg notYet] at settled
        exact Runner.node_derives accepted ih within cursor progress settled

namespace Grammar.Draft

/-- In a grammar that was built no run of a sequence, at whatever depth and wherever it starts,
ends at a name that two parts share: the records of the parts have distinct names, and the
sequence matches with a yield that holds every capture of its parts. -/
theorem sequence_matches {read : CharClass.Reader} {draft : Draft} {grammar : Grammar}
    (built : draft.build? read = some (.ok grammar)) {id : Fin grammar.size}
    {parts : List (Node grammar.size)}
    (member : .sequence parts ∈ (grammar.rules.get id).body.nodes)
    (levels : Nat) (cursor : Cursor) (progress : Progress) {outputs : List Output} {stop : Cursor}
    {after : Progress}
    (ended : (grammar.rules.run levels).parts parts cursor progress =
      (.ok (outputs, stop), after)) :
    (outputs.flatMap Output.names).Nodup ∧
      ∃ output, Output.ofSequence cursor stop outputs = .ok output ∧
        output.content.Perm (outputs.flatMap Output.content) ∧
        (grammar.rules.run levels).node grammar.rules (.sequence parts) cursor progress =
          (.matched output stop, after) := by
  obtain ⟨facts, accepted⟩ := accepted_of_build? built
  have within : .sequence parts ∈ grammar.rules.nodes := RuleTable.mem_nodes.mpr ⟨id, member⟩
  have withinParts : ∀ part ∈ parts, part ∈ grammar.rules.nodes := fun part inParts =>
    RuleTable.mem_nodes_of_inner within (Node.mem_nodes_sequence inParts)
  have sound : Runner.Sound grammar.rules True (grammar.rules.run levels) :=
    RuleTable.run_sound accepted levels
  have derives := Runner.parts_derives sound withinParts cursor progress (.inl trivial)
  rw [ended] at derives
  have distinct := Node.names_nodup (derives.fits accepted withinParts)
    (accepted.nodup_keysInTurn within)
  obtain ⟨output, merged, sequenced⟩ := Output.ofSequence_sequenced cursor stop distinct
  refine ⟨distinct, output, merged, sequenced.content, ?_⟩
  simp only [Runner.node, ended, merged]

def pair : Draft :=
  .ofRules "pair"
    [("pair", Matcher.rule "head" >>> Matcher.any.named "second"),
     ("head", Matcher.any.named "first")]

def pairRules : RuleTable 2 :=
  #v[⟨"pair", .sequence [.rule 1, .capture "second" .any]⟩, ⟨"head", .capture "first" .any⟩]

def pairGrammar : Grammar := ⟨"pair", 2, pairRules, 0, defaultMaxNesting⟩

theorem resolve_pair : pair.resolve CharClass.read = .ok (pairRules, (0 : Fin 2)) := by
  with_unfolding_all rfl

def pairFacts : FactTable 2 :=
  #v[⟨true, false, ["first", "second"], false⟩, ⟨true, false, ["first"], false⟩]

theorem build?_pair : pair.build? CharClass.read = some (.ok pairGrammar) := by
  have settled : pairRules.facts? = some pairFacts :=
    RuleTable.facts?_eq_some (show pairRules.after 2 = pairFacts by decide +kernel)
      (by decide +kernel)
  have marked : pairRules.marked pairFacts = pairRules := by
    with_unfolding_all rfl
  have checked : check pairRules pairFacts = .ok () := by
    with_unfolding_all rfl
  exact build?_eq_ok resolve_pair settled checked marked

def pairOutputs : List Output :=
  [.fields [("first", .atom ⟨"é", 0, 2⟩)], .fields [("second", .atom ⟨"b", 2, 3⟩)]]

theorem parts_pair :
    (pairRules.run 3).parts [.rule 1, .capture "second" .any] (.start "éb") .initial =
      (.ok (pairOutputs, ⟨3, []⟩), .initial) := by
  rfl

theorem sequence_matches_pair :
    pair.build? CharClass.read = some (.ok pairGrammar) ∧
      (pairOutputs.flatMap Output.names).Nodup ∧
      ∃ output, Output.ofSequence (.start "éb") ⟨3, []⟩ pairOutputs = .ok output ∧
        output.content.Perm (pairOutputs.flatMap Output.content) ∧
        (pairRules.run 3).node pairRules (.sequence [.rule 1, .capture "second" .any])
          (.start "éb") .initial = (.matched output ⟨3, []⟩, .initial) :=
  ⟨build?_pair,
    @sequence_matches CharClass.read pair pairGrammar build?_pair (0 : Fin 2) _ List.mem_cons_self 3 _ _ _ _ _
      parts_pair⟩

end Grammar.Draft

end PegText
