import PegText.Proofs.Parse.Exact

/-!
Nodes that only read text. What they yield is the text they have passed, so that only their end
matters, and the end of a run of characters is where the next one does not belong to it.
-/

namespace PegText

structure Cursor.Takes (accepts : Char → Bool) (cursor : Cursor) (run : List Char)
    (next : Cursor) : Prop where
  passes : cursor.Passes run next
  all : ∀ c ∈ run, accepts c = true
  ended : ∀ c, next.rest.head? = some c → accepts c = false

theorem Cursor.exists_takes (accepts : Char → Bool) (cursor : Cursor) :
    ∃ run next, cursor.Takes accepts run next := by
  obtain ⟨offset, rest⟩ := cursor
  induction rest generalizing offset with
  | nil => exact ⟨[], _, .refl _, by simp, by simp⟩
  | cons c rest ih =>
      by_cases accepted : accepts c = true
      · obtain ⟨run, next, taken⟩ := ih (offset + c.utf8Size)
        have first : (Cursor.mk offset (c :: rest)).Passes [c] ⟨offset + c.utf8Size, rest⟩ :=
          .of_char rfl
        exact ⟨[c] ++ run, next, first.trans taken.passes,
          List.forall_mem_cons.mpr ⟨accepted, taken.all⟩, taken.ended⟩
      · exact ⟨[], _, .refl _, by simp, by simpa using accepted⟩

variable {size : Nat} {rules : RuleTable size} {facts : FactTable size}
  {node inner : Node size} {cursor next : Cursor} {output : Output}

namespace Output

theorem isText_mergeAll {first output : Output} {rest : List Output} (notText : first.isText = false)
    (others : ∀ other ∈ rest, other.isText = false) (merged : mergeAll first rest = .ok output) :
    output.isText = false := by
  induction rest generalizing first with
  | nil =>
      cases merged
      exact notText
  | cons next rest ih =>
      obtain ⟨here, behind⟩ := List.forall_mem_cons.mp others
      obtain ⟨joined, done, later⟩ := exists_merge_of_mergeAll merged
      refine ih ?_ behind later
      cases merges_of_merge done with
      | textInFront => exact here
      | textBehind => exact notText
      | fields | lists | listFields | fieldsList => rfl

theorem slice_ofSequence {start stop : Cursor} {parts : List Output} {slice : Slice}
    (merged : ofSequence start stop parts = .ok (text slice)) : slice = start.sliceTo stop := by
  have notText : ∀ part ∈ parts.filter (!·.isText), part.isText = false := by
    intro part member
    simpa using (List.mem_filter.mp member).2
  rw [ofSequence] at merged
  split at merged
  · cases merged
    rfl
  next first rest split =>
    rw [split] at notText
    obtain ⟨here, behind⟩ := List.forall_mem_cons.mp notText
    cases isText_mergeAll here behind merged

theorem slice_ofRounds {structured : Bool} {start stop : Cursor} {rounds : List Output}
    {slice : Slice} (yielded : text slice = ofRounds structured start stop rounds) :
    slice = start.sliceTo stop := by
  rw [ofRounds] at yielded
  split at yielded
  · cases yielded
    rfl
  · cases yielded

theorem ofRounds_structured (start stop : Cursor) (rounds : List Output) :
    ofRounds true start stop rounds = list (rounds.flatMap roundItems) :=
  rfl

theorem ofRounds_texts {start stop : Cursor} {rounds : List Output}
    (texts : ∀ round ∈ rounds, round.isText = true) :
    ofRounds false start stop rounds = text (start.sliceTo stop) := by
  rw [ofRounds, if_pos (by simpa using texts)]

end Output

namespace RuleTable

/-- A node that yields text yields the text it has passed. -/
theorem Derives.slice {limited : Prop} {slice : Slice}
    (derives : rules.Derives limited (.node node) cursor (some ([.text slice], next))) :
    slice = cursor.sliceTo next := by
  -- the branches of a choice are the only other goals on the way to the text
  have atNodes : (∃ one, Goal.node node = .node one) ∨ ∃ several, Goal.node node = .branches several :=
    .inl ⟨node, rfl⟩
  generalize Goal.node node = goal at derives atNodes
  generalize ended : some ([Output.text slice], next) = result at derives
  induction derives generalizing slice next with
  | literal | char | charClass | any | absent =>
      cases ended
      rfl
  | sequence _ merged =>
      cases ended
      exact Output.slice_ofSequence merged
  | repetition =>
      obtain ⟨rounds, stop⟩ := Prod.mk.inj (Option.some.inj ended)
      subst stop
      exact Output.slice_ofRounds (List.singleton_inj.mp rounds)
  | choice _ ih => exact ih (.inr ⟨_, rfl⟩) ended
  | rule _ ih => exact ih (.inl ⟨_, rfl⟩) ended
  | branchesFirst _ ih => exact ih (.inl ⟨_, rfl⟩) ended
  | branchesLater _ _ _ ih => exact ih (.inr ⟨_, rfl⟩) ended
  | capture => cases ended
  | gaveUp | literalFails | charFails | charClassFails | anyFails | sequenceFails
  | repetitionFails | absentFails | captureFails | branchesNil => cases ended
  | partsNil | partsCons | partsFail | partsFailLater | roundsFull | roundsEnd | roundsEmpty
  | roundsMore => rcases atNodes with ⟨_, same⟩ | ⟨_, same⟩ <;> cases same

/-- A node that captures nothing yields the text it has passed. -/
theorem Accepted.eq_text {limited : Prop} (accepted : rules.Accepted facts)
    (within : node ∈ rules.nodes) (plain : node.isStructured facts = false)
    (found : rules.Derives limited (.node node) cursor (some ([output], next))) :
    output = .text (cursor.sliceTo next) := by
  have isText := accepted.isText_of_matches within plain found
  cases output with
  | text slice => rw [found.slice]
  | fields | list => cases isText

structure ReadsOne (rules : RuleTable size) (node : Node size) (accepts : Char → Bool) : Prop where
  matches_iff : ∀ {cursor output next}, rules.Matches node cursor output next ↔
    ∃ c, accepts c = true ∧ cursor.Passes [c] next ∧ output = .text (cursor.sliceTo next)
  fails_iff : ∀ {cursor}, rules.Fails node cursor ↔
    ∀ c, cursor.rest.head? = some c → accepts c = false

theorem readsOne_charClass (text : String) (accepts : Char → Bool) :
    rules.ReadsOne (.charClass text accepts) accepts :=
  ⟨matches_charClass, fails_charClass⟩

theorem ReadsOne.rule {id : Fin size} {accepts : Char → Bool}
    (reads : rules.ReadsOne (rules.get id).body accepts) : rules.ReadsOne (.rule id) accepts :=
  ⟨matches_rule.trans reads.matches_iff, fails_rule.trans reads.fails_iff⟩

theorem matches_except {stop : Char} :
    rules.Matches (.sequence [.absent (.char stop), .any]) cursor output next ↔
      ∃ c, (c != stop) = true ∧ cursor.Passes [c] next ∧ output = .text (cursor.sliceTo next) := by
  rw [matches_sequence]
  constructor
  · rintro ⟨outputs, inTurn, merged⟩
    obtain ⟨_, middle, _, absent, behind, rfl⟩ := inTurn.of_cons
    obtain ⟨_, last, _, anyFound, ended, rfl⟩ := behind.of_cons
    obtain ⟨rfl, rfl⟩ := ended.of_nil
    obtain ⟨failed, rfl, rfl⟩ := matches_absent.mp absent
    obtain ⟨c, passes, rfl⟩ := matches_any.mp anyFound
    rw [fails_char, passes.head?] at failed
    cases merged
    exact ⟨c, by simpa using failed, passes, rfl⟩
  · rintro ⟨c, different, passes, rfl⟩
    have failed : rules.Fails (.char stop) cursor := by
      rw [fails_char, passes.head?]
      simpa using different
    exact ⟨_, .partsCons (.absent failed) (.partsCons (.any passes) .partsNil), rfl⟩

theorem fails_except {stop : Char} :
    rules.Fails (.sequence [.absent (.char stop), .any]) cursor ↔
      ∀ c, cursor.rest.head? = some c → (c != stop) = false := by
  rw [fails_sequence_cons, fails_absent]
  constructor
  · rintro (⟨_, _, found⟩ | ⟨_, _, absent, failed⟩) c first
    · have passes := (matches_char.mp found).1
      rw [passes.head?] at first
      simpa using (Option.some.inj first).symm
    · obtain ⟨_, rfl, -⟩ := matches_absent.mp absent
      rcases fails_sequence_cons.mp failed with noneLeft | ⟨_, _, _, never⟩
      · cases noneLeft with
        | gaveUp limited => exact limited.elim
        | anyFails ended => simp [ended] at first
      · exact (fails_sequence_nil never).elim
  · intro refused
    cases begins : cursor.rest with
    | nil =>
        have failed : rules.Fails (.char stop) cursor := by
          rw [fails_char, begins]
          exact (Option.some_ne_none _).symm
        exact .inr ⟨_, _, .absent failed, .sequenceFails (.partsFail (.anyFails begins))⟩
    | cons c rest =>
        have same : c = stop := by
          have first := refused c
          rw [begins] at first
          simpa using first rfl
        subst same
        exact .inl ⟨_, _, matches_char.mpr ⟨.of_char begins, rfl⟩⟩

theorem readsOne_except (stop : Char) :
    rules.ReadsOne (.sequence [.absent (.char stop), .any]) (· != stop) :=
  ⟨matches_except, fails_except⟩

variable {accepts : Char → Bool}

theorem ReadsOne.consumes (reads : rules.ReadsOne inner accepts) : rules.Consumes inner := by
  intro cursor output next found same
  obtain ⟨c, -, passes, -⟩ := reads.matches_iff.mp found
  cases (passes.eq_of_offset same).1

theorem ReadsOne.run_of_rounds (reads : rules.ReadsOne inner accepts) {outputs : List Output}
    (rounds : rules.Rounds inner cursor outputs next) :
    ∃ run, cursor.Passes run next ∧ (∀ c ∈ run, accepts c = true) ∧
      run.length = outputs.length ∧ ∀ round ∈ outputs, round.isText = true := by
  induction rounds with
  | nil => exact ⟨[], .refl _, by simp⟩
  | cons found _ ih =>
      obtain ⟨c, accepted, here, rfl⟩ := reads.matches_iff.mp found
      obtain ⟨run, behind, all, sameLength, texts⟩ := ih
      refine ⟨[c] ++ run, here.trans behind, ?_, ?_, ?_⟩
      · exact List.forall_mem_cons.mpr ⟨accepted, all⟩
      · simp [sameLength]
      · exact List.forall_mem_cons.mpr ⟨rfl, texts⟩

theorem ReadsOne.rounds_of_run (reads : rules.ReadsOne inner accepts) {run : List Char}
    (passes : cursor.Passes run next) (all : ∀ c ∈ run, accepts c = true) :
    ∃ outputs, rules.Rounds inner cursor outputs next := by
  induction run generalizing cursor with
  | nil =>
      rw [Cursor.passes_nil] at passes
      exact ⟨[], passes ▸ .nil⟩
  | cons c run ih =>
      obtain ⟨accepted, behind⟩ := List.forall_mem_cons.mp all
      obtain ⟨middle, one, later⟩ := Cursor.passes_cons.mp passes
      obtain ⟨outputs, rounds⟩ := ih later behind
      exact ⟨_, .cons (reads.matches_iff.mpr ⟨c, accepted, one, rfl⟩) rounds⟩

theorem ReadsOne.matches_run (reads : rules.ReadsOne inner accepts) {least : Nat} :
    rules.Matches (.repetition inner least none false) cursor output next ↔
      ∃ run, cursor.Takes accepts run next ∧ least ≤ run.length ∧
        output = .text (cursor.sliceTo next) := by
  rw [matches_repetition reads.consumes, reads.fails_iff]
  constructor
  · rintro ⟨outputs, rounds, ended, enough, rfl⟩
    obtain ⟨run, passes, all, sameLength, texts⟩ := reads.run_of_rounds rounds
    exact ⟨run, ⟨passes, all, ended⟩, sameLength ▸ enough, Output.ofRounds_texts texts⟩
  · rintro ⟨run, taken, enough, rfl⟩
    obtain ⟨outputs, rounds⟩ := reads.rounds_of_run taken.passes taken.all
    obtain ⟨same, passes, _, sameLength, texts⟩ := reads.run_of_rounds rounds
    rw [taken.passes.same_passed passes, sameLength] at enough
    exact ⟨outputs, rounds, taken.ended, enough, (Output.ofRounds_texts texts).symm⟩

theorem ReadsOne.fails_run (reads : rules.ReadsOne inner accepts) :
    rules.Fails (.repetition inner 1 none false) cursor ↔
      ∀ c, cursor.rest.head? = some c → accepts c = false := by
  rw [← reads.fails_iff]
  constructor
  · intro failed
    cases failed with
    | gaveUp limited => exact limited.elim
    | repetitionFails rounds few =>
        obtain ⟨inside, failed⟩ := (derives_rounds reads.consumes).mp rounds
        have none := List.length_eq_zero_iff.mp (Nat.lt_one_iff.mp few)
        subst none
        cases inside
        exact failed
  · intro failed
    exact .repetitionFails (.roundsEnd rfl failed) Nat.one_pos

structure ReadsSome (rules : RuleTable size) (node : Node size) (accepts : Char → Bool) : Prop where
  matches_iff : ∀ {cursor output next}, rules.Matches node cursor output next ↔
    ∃ run, cursor.Takes accepts run next ∧ run ≠ [] ∧ output = .text (cursor.sliceTo next)
  fails_iff : ∀ {cursor}, rules.Fails node cursor ↔
    ∀ c, cursor.rest.head? = some c → accepts c = false

theorem ReadsOne.repetition (reads : rules.ReadsOne inner accepts) :
    rules.ReadsSome (.repetition inner 1 none false) accepts := by
  refine ⟨?_, reads.fails_run⟩
  intro cursor output next
  rw [reads.matches_run]
  simp only [Nat.succ_le_iff, List.length_pos_iff]

theorem ReadsSome.rule {id : Fin size} (reads : rules.ReadsSome (rules.get id).body accepts) :
    rules.ReadsSome (.rule id) accepts :=
  ⟨matches_rule.trans reads.matches_iff, fails_rule.trans reads.fails_iff⟩

theorem ReadsSome.matches_capture (reads : rules.ReadsSome inner accepts) {name : String} :
    rules.Matches (.capture name inner) cursor output next ↔
      ∃ run, cursor.Takes accepts run next ∧ run ≠ [] ∧
        output = .fields [(name, .atom (cursor.sliceTo next))] := by
  rw [RuleTable.matches_capture]
  simp only [reads.matches_iff]
  constructor
  · rintro ⟨_, ⟨run, taken, filled, rfl⟩, rfl⟩
    exact ⟨run, taken, filled, rfl⟩
  · rintro ⟨run, taken, filled, rfl⟩
    exact ⟨_, ⟨run, taken, filled, rfl⟩, rfl⟩

theorem ReadsSome.matches_maybe (reads : rules.ReadsSome inner accepts) :
    rules.Matches (.repetition inner 0 (some 1) false) cursor output next ↔
      ∃ run, cursor.Takes accepts run next ∧ output = .text (cursor.sliceTo next) := by
  rw [RuleTable.matches_maybe, reads.fails_iff]
  constructor
  · rintro (⟨yielded, found, rfl⟩ | ⟨ended, rfl, rfl⟩)
    · obtain ⟨run, taken, -, rfl⟩ := reads.matches_iff.mp found
      exact ⟨run, taken, rfl⟩
    · exact ⟨[], ⟨.refl _, by simp, ended⟩, rfl⟩
  · rintro ⟨run, taken, rfl⟩
    cases run with
    | nil =>
        cases Cursor.passes_nil.mp taken.passes
        exact .inr ⟨taken.ended, rfl, rfl⟩
    | cons c run =>
        have found := reads.matches_iff.mpr ⟨c :: run, taken, List.cons_ne_nil c run, rfl⟩
        exact .inl ⟨_, found, rfl⟩

end RuleTable

end PegText
