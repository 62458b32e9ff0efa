import PegText.Proofs.Grammar.Weight
import PegText.Proofs.Parse.Runs

/-!
How deep a parse can nest. Between two characters at most one node after another is entered that
weighs less, so a limit of one weight for each place in the text is never exceeded.
-/

namespace PegText

open String (utf8Len)

variable {size : Nat} {facts : FactTable size} {rules : RuleTable size} {limited : Prop}

def Goal.Nullable (facts : FactTable size) (outputs : List Output) : Goal size → Prop
  | .node inner => inner.isNullable facts = true
  | .parts all => Node.allNullable facts all = true
  | .branches all => Node.anyNullable facts all = true
  | .rounds inner _ _ => outputs = [] ∨ inner.isNullable facts = true

theorem RuleTable.Derives.nullable (accepted : rules.Accepted facts) {goal : Goal size}
    {cursor next : Cursor} {outputs : List Output}
    (derives : rules.Derives limited goal cursor (some (outputs, next)))
    (same : next.offset = cursor.offset) : goal.Nullable facts outputs := by
  generalize ended : some (outputs, next) = result at derives
  induction derives generalizing outputs next with
  | gaveUp | literalFails | charFails | charClassFails | anyFails | sequenceFails
  | repetitionFails | absentFails | captureFails | partsFail | partsFailLater | branchesNil =>
      cases ended
  | literal passes =>
      cases ended
      have empty := (passes.eq_of_offset same).1
      simpa [Goal.Nullable, Node.isNullable] using empty
  | char passes | charClass _ passes | any passes =>
      cases ended
      cases (passes.eq_of_offset same).1
  | sequence _ _ ih | capture _ ih =>
      cases ended
      exact ih same rfl
  | choice _ ih => exact ih same ended
  | repetition _ enough ih =>
      cases ended
      rw [Goal.Nullable, Node.isNullable, Bool.or_eq_true, beq_iff_eq]
      refine (ih same rfl).imp_left fun none => ?_
      rw [none] at enough
      exact Nat.le_zero.mp enough
  | absent => rfl
  | @rule id _ _ _ ih =>
      have known : (rules.get id).body.isNullable facts = true := ih same ended
      rw [Goal.Nullable, Node.isNullable, ← accepted.facts_body id]
      exact known
  | partsNil => rfl
  | partsCons one two first later =>
      cases ended
      obtain ⟨_, here⟩ := one.passes
      obtain ⟨_, behind⟩ := two.passes
      have hereOffset := here.offset
      have behindOffset := behind.offset
      -- offsets never go back, so neither the part nor the others have passed anything
      rw [Goal.Nullable, Node.allNullable, Bool.and_eq_true]
      exact ⟨first (by omega) rfl, later (by omega) rfl⟩
  | branchesFirst _ ih =>
      cases ended
      rw [Goal.Nullable, Node.anyNullable, Bool.or_eq_true]
      exact .inl (ih same rfl)
  | branchesLater _ _ _ ih =>
      rw [Goal.Nullable, Node.anyNullable, Bool.or_eq_true]
      exact .inr (ih same ended)
  | roundsFull | roundsEnd =>
      cases ended
      exact .inl rfl
  | roundsEmpty _ _ _ ih =>
      cases ended
      exact .inr (ih same rfl)
  | roundsMore _ one further two =>
      cases ended
      obtain ⟨_, here⟩ := one.passes
      obtain ⟨_, behind⟩ := two.passes
      have hereOffset := here.offset
      have behindOffset := behind.offset
      exact (further (by omega)).elim

namespace Runner

def Shallow (rules : RuleTable size) (facts : FactTable size) (levels : Nat)
    (run : Runner size) : Prop :=
  ∀ {node}, node ∈ rules.nodes → ∀ cursor progress, progress.exceeded = none →
    rules.weight facts node + rules.nodeCount * utf8Len cursor.rest ≤ levels →
      (run node cursor progress).2.exceeded = none

variable {run : Runner size} {levels : Nat}

theorem room_of_passes (rules : RuleTable size) {cursor next : Cursor} {passed : List Char}
    (passes : cursor.Passes passed next) (further : next.offset ≠ cursor.offset) :
    rules.nodeCount + rules.nodeCount * utf8Len next.rest ≤
      rules.nodeCount * utf8Len cursor.rest := by
  have shorter : utf8Len next.rest + 1 ≤ utf8Len cursor.rest := (passes.rest_lt further).2
  calc
    rules.nodeCount + rules.nodeCount * utf8Len next.rest =
        rules.nodeCount * (utf8Len next.rest + 1) := by rw [Nat.mul_succ, Nat.add_comm]
    _ ≤ rules.nodeCount * utf8Len cursor.rest := Nat.mul_le_mul_left _ shorter

/-- The parts of a sequence have room if either those at the left have, or every node has. -/
theorem parts_shallow (accepted : rules.Accepted facts) (sound : run.Sound rules True)
    (shallow : run.Shallow rules facts levels) {parts : List (Node size)}
    (within : ∀ part ∈ parts, part ∈ rules.nodes) (cursor : Cursor) (progress : Progress)
    (fine : progress.exceeded = none)
    (room : rules.weightOf facts (Node.leftSizeOfSequence facts parts)
        (Node.leftCallsOfSequence facts parts) + rules.nodeCount * utf8Len cursor.rest ≤ levels ∨
      rules.nodeCount + rules.nodeCount * utf8Len cursor.rest ≤ levels) :
    (run.parts parts cursor progress).2.exceeded = none := by
  induction parts generalizing cursor progress with
  | nil => exact fine
  | cons part rest ih =>
      obtain ⟨here, behind⟩ := List.forall_mem_cons.mp within
      rw [Node.leftSizeOfSequence, Node.leftCallsOfSequence] at room
      have roomHere : rules.weight facts part + rules.nodeCount * utf8Len cursor.rest ≤ levels := by
        rcases room with left | all
        · have bound := rules.weightOf_mono facts
            (Nat.le_add_right (part.leftSize facts)
              (if part.isNullable facts then Node.leftSizeOfSequence facts rest else 0))
            (List.subset_append_left (part.leftCalls facts)
              (if part.isNullable facts then Node.leftCallsOfSequence facts rest else []))
          rw [RuleTable.weight]
          omega
        · have bound := accepted.weight_le_nodeCount here
          omega
      have first := shallow here cursor progress fine roomHere
      have derives := sound.derives here cursor progress (.inl trivial)
      rcases ran : run part cursor progress with ⟨outcome, between⟩
      rw [ran] at first derives
      cases outcome with
      | failed failure =>
          rw [Runner.parts, ran]
          exact first
      | matched output next =>
          have roomLater : rules.weightOf facts (Node.leftSizeOfSequence facts rest)
                (Node.leftCallsOfSequence facts rest) +
              rules.nodeCount * utf8Len next.rest ≤ levels ∨
            rules.nodeCount + rules.nodeCount * utf8Len next.rest ≤ levels := by
            obtain ⟨passed, passes⟩ := derives.passes
            by_cases same : next.offset = cursor.offset
            -- nothing was consumed, so what follows is still at the left
            · have nullable : part.isNullable facts = true := derives.nullable accepted same
              rw [if_pos nullable, if_pos nullable] at room
              rw [(passes.eq_of_offset same).2]
              refine room.imp_left fun left => ?_
              have bound := rules.weightOf_mono facts
                (Nat.le_add_left (Node.leftSizeOfSequence facts rest) (part.leftSize facts))
                (List.subset_append_right (part.leftCalls facts)
                  (Node.leftCallsOfSequence facts rest))
              omega
            · have gained := room_of_passes rules passes same
              exact .inr (by omega)
          rw [parts_progress ran]
          exact ih behind next between first roomLater

theorem branches_shallow (shallow : run.Shallow rules facts levels) {branches : List (Node size)}
    (within : ∀ branch ∈ branches, branch ∈ rules.nodes) {cursor : Cursor}
    (deepest : Option Failure) (progress : Progress) (fine : progress.exceeded = none)
    (room : ∀ branch ∈ branches,
      rules.weight facts branch + rules.nodeCount * utf8Len cursor.rest ≤ levels) :
    (run.branches cursor branches deepest progress).2.exceeded = none := by
  exact branches_settled (fun branch member progress fine =>
    shallow (within branch member) cursor progress fine (room branch member)) deepest progress fine

/-- Each further round has passed some character, so it has as much room as the first. -/
theorem rounds_shallow (accepted : rules.Accepted facts) (sound : run.Sound rules True)
    (shallow : run.Shallow rules facts levels) {inner : Node size}
    (within : inner ∈ rules.nodes) (most : Option Nat) (bound : List Char) (count : Nat)
    (outputs : List Output) (cursor : Cursor) (progress : Progress)
    (fine : progress.exceeded = none)
    (room : rules.weight facts inner + rules.nodeCount * utf8Len cursor.rest ≤ levels) :
    (run.rounds inner most bound count outputs cursor progress).2.exceeded = none := by
  have first {cursor : Cursor} {progress between : Progress} {outcome : Outcome}
      (fine : progress.exceeded = none)
      (room : rules.weight facts inner + rules.nodeCount * utf8Len cursor.rest ≤ levels)
      (ran : run inner cursor progress = (outcome, between)) : between.exceeded = none := by
    simpa only [ran] using shallow within cursor progress fine room
  fun_induction Runner.rounds run inner most bound count outputs cursor progress with
  | case1 => exact fine
  | case2 _ _ _ _ _ _ _ _ ran => exact first fine room ran
  | case3 _ _ _ _ _ _ _ _ _ ran => exact first fine room ran
  | case4 _ _ _ _ _ _ _ _ ran => exact first fine room ran
  | case5 _ _ cursor progress _ output next between ran further _ _ ih =>
      have derives := sound.derives within cursor progress (.inl trivial)
      rw [ran] at derives
      obtain ⟨_, passes⟩ := derives.passes
      have gained := room_of_passes rules passes further
      have weight := accepted.weight_le_nodeCount within
      exact ih (first fine room ran) (by omega)

theorem node_shallow (accepted : rules.Accepted facts) (sound : run.Sound rules True)
    (shallow : run.Shallow rules facts levels) {node : Node size} (within : node ∈ rules.nodes)
    (cursor : Cursor) (progress : Progress) (fine : progress.exceeded = none)
    (room : rules.weight facts node + rules.nodeCount * utf8Len cursor.rest ≤ levels + 1) :
    (run.node rules node cursor progress).2.exceeded = none := by
  have leaf (isLeaf : node.IsLeaf) : (run.node rules node cursor progress).2.exceeded = none := by
    rw [leaf_notes Progress.noting_exceeded rules isLeaf, fine]
  cases node with
  | literal | char | charClass | any => exact leaf trivial
  | sequence parts =>
      have less : rules.weightOf facts (Node.leftSizeOfSequence facts parts)
          (Node.leftCallsOfSequence facts parts) < rules.weight facts (.sequence parts) := by
        simp only [RuleTable.weight, RuleTable.weightOf, Node.leftSize, Node.leftCalls]
        omega
      rw [sequence_notes Progress.noting_exceeded]
      exact parts_shallow accepted sound shallow (fun part member =>
        RuleTable.mem_nodes_of_inner within (Node.mem_nodes_sequence member)) cursor progress fine
        (.inl (by omega))
  | choice branches =>
      refine branches_shallow shallow (fun branch member =>
        RuleTable.mem_nodes_of_inner within (Node.mem_nodes_choice member)) none progress fine ?_
      intro branch member
      have less : rules.weight facts branch < rules.weight facts (.choice branches) :=
        RuleTable.weight_lt_of_le (Node.leftSize_le_of_mem member) fun id called =>
          Node.mem_leftCallsOfAll.mpr ⟨branch, member, called⟩
      omega
  | repetition inner least most structured =>
      have less : rules.weight facts inner <
          rules.weight facts (.repetition inner least most structured) :=
        RuleTable.weight_lt_of_le (Nat.le_refl _) (List.Subset.refl _)
      rw [repetition_notes Progress.noting_exceeded]
      exact rounds_shallow accepted sound shallow
        (RuleTable.mem_nodes_of_inner within Node.mem_nodes_repetition) most cursor.rest 0 []
        cursor progress fine (by omega)
  | absent inner =>
      have less : rules.weight facts inner < rules.weight facts (.absent inner) :=
        RuleTable.weight_lt_of_le (Nat.le_refl _) (List.Subset.refl _)
      rw [absent_notes Progress.noting_exceeded]
      exact shallow (RuleTable.mem_nodes_of_inner within Node.mem_nodes_absent) cursor
        progress.enterLookahead fine (by omega)
  | capture name inner =>
      have less : rules.weight facts inner < rules.weight facts (.capture name inner) :=
        RuleTable.weight_lt_of_le (Nat.le_refl _) (List.Subset.refl _)
      rw [capture_progress]
      exact shallow (RuleTable.mem_nodes_of_inner within Node.mem_nodes_capture) cursor progress
        fine (by omega)
  | rule id =>
      have less := accepted.weight_body_lt id
      exact shallow (rules.body_mem_nodes id) cursor progress fine (by omega)

end Runner

theorem RuleTable.run_shallow (accepted : rules.Accepted facts) (levels : Nat) :
    Runner.Shallow rules facts levels (rules.run levels) := by
  induction levels with
  | zero =>
      intro node _ cursor progress _ room
      have positive := rules.weight_pos facts node
      omega
  | succ levels ih =>
      intro node within cursor progress fine room
      rw [RuleTable.run_succ, fine]
      exact Runner.node_shallow accepted (run_sound accepted levels) ih within cursor progress fine
        room

namespace Grammar

theorem conclude_of_exceeded (source : Source) (limit : Nat) {answer : Outcome × Progress}
    {position : Nat} (exceeded : answer.2.exceeded = some position) :
    conclude source limit answer = .error (tooDeep source limit position) := by
  obtain ⟨outcome, progress⟩ := answer
  have beyond : progress.exceeded = some position := exceeded
  simp only [conclude, beyond]

theorem conclude_of_settled (source : Source) (limit : Nat) {outcome : Outcome}
    {progress : Progress} (settled : progress.exceeded = none) :
    (∃ capture, conclude source limit (outcome, progress) = .ok capture) ∨
      ∃ diagnostic expected found, conclude source limit (outcome, progress) = .error diagnostic ∧
        diagnostic.cause = .unexpectedInput expected found := by
  simp only [conclude, settled]
  cases outcome with
  | failed failure => exact .inr ⟨_, _, _, rfl, rfl⟩
  | matched output stop =>
      by_cases atEnd : stop.isAtEnd = true
      · exact .inl ⟨_, if_pos atEnd⟩
      · exact .inr ⟨_, _, _, if_neg atEnd, rfl⟩

/-- A grammar that was built matches every text within as many levels as it has nodes, once for
each byte of the text and once more. Such a parse never exceeds its limit: it ends as a derivation
that gives up nowhere says, with a tree or with a mismatch. -/
theorem Draft.parse_ends {read : CharClass.Reader} {draft : Draft} {grammar : Grammar}
    (built : draft.build? read = some (.ok grammar)) (id : Fin grammar.size) (source : Source)
    {limit : Nat}
    (enough : (source.text.utf8ByteSize + 1) * grammar.rules.nodeCount ≤ limit) :
    (grammar.run id source.text limit).2.exceeded = none ∧
      grammar.rules.Derives False (.node (grammar.rules.get id).body) (.start source.text)
        (grammar.run id source.text limit).1.result ∧
      ((∃ capture, grammar.parseWith id source limit = .ok capture) ∨
        ∃ diagnostic expected found, grammar.parseWith id source limit = .error diagnostic ∧
          diagnostic.cause = .unexpectedInput expected found) := by
  obtain ⟨facts, accepted⟩ := accepted_of_build? built
  have within := grammar.rules.body_mem_nodes id
  have settled : (grammar.run id source.text limit).2.exceeded = none := by
    refine RuleTable.run_shallow accepted limit within _ _ rfl ?_
    have weight := accepted.weight_le_nodeCount within
    have bytes : utf8Len (Cursor.start source.text).rest = source.text.utf8ByteSize :=
      String.utf8Len_toList _
    rw [bytes, Nat.mul_comm grammar.rules.nodeCount]
    rw [Nat.succ_mul] at enough
    omega
  have sound : Runner.Sound grammar.rules False (grammar.rules.run limit) :=
    RuleTable.run_sound accepted limit
  exact ⟨settled, sound.derives within _ _ (.inr settled), conclude_of_settled source limit settled⟩

theorem Draft.parse_ends_pair :
    pair.build? CharClass.read = some (.ok pairGrammar) ∧
      ("éb".utf8ByteSize + 1) * pairRules.nodeCount ≤ 24 ∧
      (pairGrammar.run (0 : Fin 2) "éb" 24).2.exceeded = none ∧
      pairRules.Derives False (.node (pairRules.get 0).body) (.start "éb")
        (pairGrammar.run (0 : Fin 2) "éb" 24).1.result ∧
      ((∃ capture, pairGrammar.parseWith (0 : Fin 2) (.ofInput "éb") 24 = .ok capture) ∨
        ∃ diagnostic expected found,
          pairGrammar.parseWith (0 : Fin 2) (.ofInput "éb") 24 = .error diagnostic ∧
            diagnostic.cause = .unexpectedInput expected found) := by
  have enough : ("éb".utf8ByteSize + 1) * pairRules.nodeCount ≤ 24 := by
    decide +kernel
  exact ⟨build?_pair, enough,
    @parse_ends CharClass.read pair pairGrammar build?_pair (0 : Fin 2) (.ofInput "éb") 24 enough⟩

end Grammar

end PegText
