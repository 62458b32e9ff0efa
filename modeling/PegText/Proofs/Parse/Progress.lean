import PegText.Parse

/-!
What a run keeps of the progress it is given. A relation between progress before and after that
holds for each single note holds for a whole run.
-/

namespace PegText

/-- A relation between earlier and later progress that every note respects. -/
structure Progress.Lasting (lasts : Progress → Progress → Prop) : Prop where
  refl : ∀ progress, lasts progress progress
  trans : ∀ {first second third}, lasts first second → lasts second third → lasts first third
  note : ∀ progress position expected, lasts progress (progress.note position expected)
  exceed : ∀ progress position,
    lasts progress { progress with exceeded := some (progress.exceeded.getD position) }
  lookahead : ∀ {before after}, lasts before.enterLookahead after → lasts before after.leaveLookahead

structure Progress.Noting (noted : Progress → Progress → Prop) : Prop where
  refl : ∀ progress, noted progress progress
  note : ∀ progress position expected, noted progress (progress.note position expected)

variable {size : Nat} {lasts noted : Progress → Progress → Prop}

theorem Progress.Lasting.noting (lasting : Lasting lasts) : Noting lasts :=
  ⟨lasting.refl, lasting.note⟩

def Node.IsLeaf : Node size → Prop
  | .literal _ | .char _ | .charClass _ _ | .any => True
  | _ => False

namespace Runner

variable {run : Runner size}

/-! The rounds of a repetition, one by one. -/

section

variable {inner : Node size} {most : Option Nat} {bound : List Char} {count : Nat}
  {outputs : List Output} {cursor next : Cursor} {progress between : Progress} {output : Output}

theorem rounds_full (full : most.any (· ≤ count) = true) :
    run.rounds inner most bound count outputs cursor progress =
      (⟨outputs.reverse, cursor, none⟩, progress) := by
  rw [Runner.rounds.eq_def, if_pos full]

theorem rounds_failed {failure : Failure} (notFull : ¬most.any (· ≤ count) = true)
    (ran : run inner cursor progress = (.failed failure, between)) :
    run.rounds inner most bound count outputs cursor progress =
      (⟨outputs.reverse, cursor, some failure⟩, between) := by
  rw [Runner.rounds.eq_def, if_neg notFull, ran]

theorem rounds_last (notFull : ¬most.any (· ≤ count) = true)
    (ran : run inner cursor progress = (.matched output next, between))
    (last : next.offset = cursor.offset ∨ bound = []) :
    run.rounds inner most bound count outputs cursor progress =
      (⟨(output :: outputs).reverse, next, none⟩, between) := by
  rw [Runner.rounds.eq_def, if_neg notFull, ran]
  rcases last with same | rfl
  · exact if_pos same
  · exact ite_self _

theorem rounds_further (notFull : ¬most.any (· ≤ count) = true)
    (ran : run inner cursor progress = (.matched output next, between))
    (further : next.offset ≠ cursor.offset) (c : Char) :
    run.rounds inner most (c :: bound) count outputs cursor progress =
      run.rounds inner most bound (count + 1) (output :: outputs) next between := by
  rw [Runner.rounds, if_neg notFull, ran]
  exact if_neg further

end

/-- Behind its first part, a sequence notes what its other parts do. -/
theorem parts_progress {part : Node size} {cursor next : Cursor} {progress between : Progress}
    {output : Output} (ran : run part cursor progress = (.matched output next, between))
    (rest : List (Node size)) :
    (run.parts (part :: rest) cursor progress).2 = (run.parts rest next between).2 := by
  simp only [Runner.parts, ran]
  rcases run.parts rest next between with ⟨_ | _, after⟩ <;> rfl

/-! What a run keeps at each node, it keeps at a list of them. -/

theorem parts_lasts (lasting : Progress.Lasting lasts)
    (keeps : ∀ node cursor progress, lasts progress (run node cursor progress).2)
    (parts : List (Node size)) (cursor : Cursor) (progress : Progress) :
    lasts progress (run.parts parts cursor progress).2 := by
  induction parts generalizing cursor progress with
  | nil => exact lasting.refl progress
  | cons part rest ih =>
      have first := keeps part cursor progress
      rcases ran : run part cursor progress with ⟨outcome, between⟩
      rw [ran] at first
      cases outcome with
      | failed failure =>
          rw [Runner.parts, ran]
          exact first
      | matched output next =>
          rw [parts_progress ran]
          exact lasting.trans first (ih next between)

theorem branches_lasts (lasting : Progress.Lasting lasts)
    (keeps : ∀ node cursor progress, lasts progress (run node cursor progress).2)
    (cursor : Cursor) (branches : List (Node size)) (deepest : Option Failure)
    (progress : Progress) :
    lasts progress (run.branches cursor branches deepest progress).2 := by
  induction branches generalizing deepest progress with
  | nil =>
      cases deepest with
      | none => exact lasting.note progress _ _
      | some deepest => exact lasting.refl progress
  | cons branch rest ih =>
      have first := keeps branch cursor progress
      rw [Runner.branches]
      split
      next output next between matched =>
        rw [matched] at first
        exact first
      next failure between failed =>
        rw [failed] at first
        exact lasting.trans first (ih _ between)

theorem rounds_lasts (lasting : Progress.Lasting lasts)
    (keeps : ∀ node cursor progress, lasts progress (run node cursor progress).2)
    (inner : Node size) (most : Option Nat) (bound : List Char) (count : Nat)
    (outputs : List Output) (cursor : Cursor) (progress : Progress) :
    lasts progress (run.rounds inner most bound count outputs cursor progress).2 := by
  have first {cursor : Cursor} {progress between : Progress} {outcome : Outcome}
      (ran : run inner cursor progress = (outcome, between)) : lasts progress between := by
    simpa only [ran] using keeps inner cursor progress
  -- the rounds are full, one fails, one is empty, the bound is used up, or others follow
  fun_induction Runner.rounds run inner most bound count outputs cursor progress with
  | case1 => exact lasting.refl _
  | case2 _ _ _ _ _ _ _ _ ran => exact first ran
  | case3 _ _ _ _ _ _ _ _ _ ran => exact first ran
  | case4 _ _ _ _ _ _ _ _ ran => exact first ran
  | case5 _ _ _ _ _ _ _ _ ran _ _ _ ih => exact lasting.trans (first ran) ih

/-! What a node notes, it notes behind what is inside it. -/

/-- Whether a leaf matches is decided by what is ahead alone. -/
theorem leaf_ends {node : Node size} (leaf : node.IsLeaf) (rules : RuleTable size)
    (cursor : Cursor) :
    (∃ next, ∀ (run : Runner size) progress, run.node rules node cursor progress =
      (.matched (.text (cursor.sliceTo next)) next, progress)) ∨
    ∃ expected, ∀ (run : Runner size) progress,
      run.node rules node cursor progress = progress.fail cursor expected := by
  cases node with
  | literal | any =>
      simp only [Runner.node]
      split
      · exact .inl ⟨_, fun _ _ => rfl⟩
      · exact .inr ⟨_, fun _ _ => rfl⟩
  | char | charClass =>
      simp only [Runner.node]
      split
      · split
        · exact .inl ⟨_, fun _ _ => rfl⟩
        · exact .inr ⟨_, fun _ _ => rfl⟩
      · exact .inr ⟨_, fun _ _ => rfl⟩
  | sequence | choice | repetition | absent | capture | rule => exact leaf.elim

theorem leaf_notes (noting : Progress.Noting noted) (rules : RuleTable size) {node : Node size}
    (leaf : node.IsLeaf) (cursor : Cursor) (progress : Progress) :
    noted progress (run.node rules node cursor progress).2 := by
  rcases leaf_ends leaf rules cursor with ⟨next, matched⟩ | ⟨expected, failed⟩
  · rw [matched]
    exact noting.refl progress
  · rw [failed]
    exact noting.note progress _ _

theorem first_part_lasts (lasting : Progress.Lasting lasts)
    (keeps : ∀ node cursor progress, lasts progress (run node cursor progress).2)
    (part : Node size) (rest : List (Node size)) (cursor : Cursor) (progress : Progress) :
    lasts (run part cursor progress).2 (run.parts (part :: rest) cursor progress).2 := by
  rcases ran : run part cursor progress with ⟨outcome, between⟩
  cases outcome with
  | failed failure =>
      rw [Runner.parts, ran]
      exact lasting.refl between
  | matched output next =>
      rw [parts_progress ran]
      exact parts_lasts lasting keeps rest next between

theorem first_branch_lasts (lasting : Progress.Lasting lasts)
    (keeps : ∀ node cursor progress, lasts progress (run node cursor progress).2)
    (cursor : Cursor) (branch : Node size) (rest : List (Node size)) (deepest : Option Failure)
    (progress : Progress) :
    lasts (run branch cursor progress).2
      (run.branches cursor (branch :: rest) deepest progress).2 := by
  rw [Runner.branches]
  rcases run branch cursor progress with ⟨outcome, between⟩
  cases outcome with
  | matched output next => exact lasting.refl between
  | failed failure => exact branches_lasts lasting keeps cursor rest _ between

theorem first_round_lasts (lasting : Progress.Lasting lasts)
    (keeps : ∀ node cursor progress, lasts progress (run node cursor progress).2)
    (inner : Node size) {most : Option Nat} (bound : List Char) {count : Nat}
    (notFull : most.any (· ≤ count) = false) (outputs : List Output) (cursor : Cursor)
    (progress : Progress) :
    lasts (run inner cursor progress).2
      (run.rounds inner most bound count outputs cursor progress).2 := by
  rw [Runner.rounds, if_neg (Bool.eq_false_iff.mp notFull)]
  rcases run inner cursor progress with ⟨outcome, between⟩
  cases outcome with
  | failed failure => exact lasting.refl between
  | matched output next =>
      simp only
      split
      · exact lasting.refl between
      · cases bound with
        | nil => exact lasting.refl between
        | cons c bound => exact rounds_lasts lasting keeps inner most bound _ _ next between

theorem sequence_notes (noting : Progress.Noting noted) (rules : RuleTable size)
    (parts : List (Node size)) (cursor : Cursor) (progress : Progress) :
    noted (run.parts parts cursor progress).2
      (run.node rules (.sequence parts) cursor progress).2 := by
  simp only [Runner.node]
  rcases run.parts parts cursor progress with ⟨ended, after⟩
  cases ended with
  | error failure => exact noting.refl after
  | ok yielded =>
      simp only
      split
      · exact noting.refl after
      · exact noting.note after _ _

theorem repetition_notes (noting : Progress.Noting noted) (rules : RuleTable size)
    (inner : Node size) (least : Nat) (most : Option Nat) (structured : Bool) (cursor : Cursor)
    (progress : Progress) :
    noted (run.rounds inner most cursor.rest 0 [] cursor progress).2
      (run.node rules (.repetition inner least most structured) cursor progress).2 := by
  simp only [Runner.node]
  rcases run.rounds inner most cursor.rest 0 [] cursor progress with ⟨rounds, after⟩
  simp only
  split
  · split
    · exact noting.refl after
    · exact noting.note after _ _
  · exact noting.refl after

theorem absent_notes (noting : Progress.Noting noted) (rules : RuleTable size)
    (inner : Node size) (cursor : Cursor) (progress : Progress) :
    noted (run inner cursor progress.enterLookahead).2.leaveLookahead
      (run.node rules (.absent inner) cursor progress).2 := by
  simp only [Runner.node]
  rcases run inner cursor progress.enterLookahead with ⟨outcome, after⟩
  cases outcome with
  | matched output next => exact noting.note after.leaveLookahead _ _
  | failed failure => exact noting.refl after.leaveLookahead

theorem capture_progress (rules : RuleTable size) (name : String) (inner : Node size)
    (cursor : Cursor) (progress : Progress) :
    (run.node rules (.capture name inner) cursor progress).2 = (run inner cursor progress).2 := by
  simp only [Runner.node]
  rcases run inner cursor progress with ⟨outcome, after⟩
  cases outcome <;> rfl

theorem node_lasts (lasting : Progress.Lasting lasts)
    (keeps : ∀ node cursor progress, lasts progress (run node cursor progress).2)
    (rules : RuleTable size) (node : Node size) (cursor : Cursor) (progress : Progress) :
    lasts progress (run.node rules node cursor progress).2 := by
  have leaf (isLeaf : node.IsLeaf) : lasts progress (run.node rules node cursor progress).2 :=
    leaf_notes lasting.noting rules isLeaf cursor progress
  cases node with
  | literal | char | charClass | any => exact leaf trivial
  | sequence parts =>
      have inside := parts_lasts lasting keeps parts cursor progress
      exact lasting.trans inside (sequence_notes lasting.noting rules parts cursor progress)
  | choice branches => exact branches_lasts lasting keeps cursor branches none progress
  | repetition inner least most structured =>
      have inside := rounds_lasts lasting keeps inner most cursor.rest 0 [] cursor progress
      exact lasting.trans inside
        (repetition_notes lasting.noting rules inner least most structured cursor progress)
  | absent inner =>
      have inside := lasting.lookahead (keeps inner cursor progress.enterLookahead)
      exact lasting.trans inside (absent_notes lasting.noting rules inner cursor progress)
  | capture name inner =>
      rw [capture_progress]
      exact keeps inner cursor progress
  | rule id => exact keeps _ cursor progress

end Runner

theorem RuleTable.run_succ (rules : RuleTable size) (levels : Nat) (node : Node size)
    (cursor : Cursor) (progress : Progress) :
    rules.run (levels + 1) node cursor progress =
      if progress.exceeded.isSome then progress.exceed cursor
      else (rules.run levels).node rules node cursor progress :=
  rfl

theorem RuleTable.run_lasts (lasting : Progress.Lasting lasts) (rules : RuleTable size)
    (levels : Nat) (node : Node size) (cursor : Cursor) (progress : Progress) :
    lasts progress (rules.run levels node cursor progress).2 := by
  induction levels generalizing node cursor progress with
  | zero => exact lasting.exceed progress cursor.offset
  | succ levels ih =>
      rw [RuleTable.run_succ]
      split
      · exact lasting.exceed progress cursor.offset
      · exact Runner.node_lasts lasting ih rules node cursor progress

namespace Progress

@[simp]
theorem exceeded_note (progress : Progress) (position : Nat) (expected : String) :
    (progress.note position expected).exceeded = progress.exceeded := by
  rw [note]
  split
  · rfl
  · split <;> rfl

theorem noting_exceeded : Noting fun before after => after.exceeded = before.exceeded :=
  ⟨fun _ => rfl, exceeded_note⟩

/-- Later progress that has not exceeded the limit comes from such progress. -/
theorem lasting_exceeded :
    Lasting fun before after => after.exceeded = none → before.exceeded = none where
  refl _ := id
  trans one two := fun later => one (two later)
  note progress position expected := by simp
  exceed progress position := by simp
  lookahead inside := inside

theorem lasting_position :
    Lasting fun before after =>
      ∀ position, before.exceeded = some position → after.exceeded = some position where
  refl _ _ := id
  trans one two := fun position first => two position (one position first)
  note progress position expected := by simp
  exceed progress position := by simp +contextual
  lookahead inside := inside

end Progress

namespace Runner

variable {run : Runner size}

theorem branches_settled {branches : List (Node size)} {cursor : Cursor}
    (each : ∀ branch ∈ branches, ∀ progress, progress.exceeded = none →
      (run branch cursor progress).2.exceeded = none)
    (deepest : Option Failure) (progress : Progress) (fine : progress.exceeded = none) :
    (run.branches cursor branches deepest progress).2.exceeded = none := by
  induction branches generalizing deepest progress with
  | nil =>
      cases deepest with
      | none => rw [Runner.branches, Progress.fail, Progress.exceeded_note, fine]
      | some deepest => exact fine
  | cons branch rest ih =>
      obtain ⟨here, behind⟩ := List.forall_mem_cons.mp each
      have first := here progress fine
      rw [Runner.branches]
      split
      all_goals
        rename_i ran
        rw [ran] at first
      · exact first
      · exact ih behind _ _ first

theorem rounds_settled {inner : Node size}
    (each : ∀ cursor progress, progress.exceeded = none →
      (run inner cursor progress).2.exceeded = none)
    (most : Option Nat) (bound : List Char) (count : Nat) (outputs : List Output) (cursor : Cursor)
    (progress : Progress) (fine : progress.exceeded = none) :
    (run.rounds inner most bound count outputs cursor progress).2.exceeded = none := by
  have first {cursor : Cursor} {progress between : Progress} {outcome : Outcome}
      (fine : progress.exceeded = none) (ran : run inner cursor progress = (outcome, between)) :
      between.exceeded = none := by
    simpa only [ran] using each cursor progress fine
  fun_induction Runner.rounds run inner most bound count outputs cursor progress with
  | case1 => exact fine
  | case2 _ _ _ _ _ _ _ _ ran => exact first fine ran
  | case3 _ _ _ _ _ _ _ _ _ ran => exact first fine ran
  | case4 _ _ _ _ _ _ _ _ ran => exact first fine ran
  | case5 _ _ _ _ _ _ _ _ ran _ _ _ ih => exact ih (first fine ran)

end Runner

end PegText
