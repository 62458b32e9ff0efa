import PegText.Proofs.Parse.Progress

/-!
Two runs side by side. The second is given other progress, or more levels; as long as the first
stays within its limit, both end with the same outcome. So what was noted before a match does not
decide how it ends, and no level matters but a missing one.
-/

namespace PegText

variable {size : Nat} {alike : Progress → Progress → Prop}

structure Progress.Likeness (alike : Progress → Progress → Prop) : Prop where
  settled : ∀ {progress other}, alike progress other →
    progress.exceeded = none → other.exceeded = none
  note : ∀ {progress other}, alike progress other → ∀ position expected,
    alike (progress.note position expected) (other.note position expected)
  enter : ∀ {progress other}, alike progress other →
    alike progress.enterLookahead other.enterLookahead
  leave : ∀ {progress other}, alike progress other →
    alike progress.leaveLookahead other.leaveLookahead

def Progress.Follows {α : Type} (alike : Progress → Progress → Prop)
    (first second : α × Progress) : Prop :=
  first.2.exceeded = none → second.1 = first.1 ∧ alike first.2 second.2

theorem Progress.Follows.exists_answers {α : Type} {first second : α × Progress}
    (follows : Progress.Follows alike first second) (settled : first.2.exceeded = none) :
    ∃ outcome after after', first = (outcome, after) ∧ second = (outcome, after') ∧
      alike after after' := by
  obtain ⟨outcome, after⟩ := first
  obtain ⟨outcome', after'⟩ := second
  obtain ⟨same, like⟩ := follows settled
  cases same
  exact ⟨outcome, after, after', rfl, rfl, like⟩

namespace Runner

section

variable {run run' : Runner size} (likeness : Progress.Likeness alike)
  (keeps : ∀ node cursor progress,
    (run node cursor progress).2.exceeded = none → progress.exceeded = none)
  (follows : ∀ node cursor {progress other}, alike progress other →
    Progress.Follows alike (run node cursor progress) (run' node cursor other))

include follows

include keeps in
theorem parts_follows (parts : List (Node size)) (cursor : Cursor) {progress other : Progress}
    (like : alike progress other) :
    Progress.Follows alike (run.parts parts cursor progress) (run'.parts parts cursor other) := by
  induction parts generalizing cursor progress other with
  | nil => exact fun _ => ⟨rfl, like⟩
  | cons part rest ih =>
      intro settled
      have settledFirst := first_part_lasts Progress.lasting_exceeded keeps part rest cursor
        progress settled
      obtain ⟨outcome, between, between', ran, ran', likeBetween⟩ :=
        (follows part cursor like).exists_answers settledFirst
      rw [Runner.parts, Runner.parts, ran, ran']
      cases outcome with
      | failed failure => exact ⟨rfl, likeBetween⟩
      | matched output next =>
          rw [parts_progress ran] at settled
          obtain ⟨ended, after, after', ranLater, ranLater', likeLater⟩ :=
            (ih next likeBetween).exists_answers settled
          simp only [ranLater, ranLater']
          cases ended <;> exact ⟨rfl, likeLater⟩

include keeps likeness in
theorem branches_follows (cursor : Cursor) (branches : List (Node size))
    (deepest : Option Failure) {progress other : Progress} (like : alike progress other) :
    Progress.Follows alike (run.branches cursor branches deepest progress)
      (run'.branches cursor branches deepest other) := by
  induction branches generalizing deepest progress other with
  | nil =>
      cases deepest with
      | none => exact fun _ => ⟨rfl, likeness.note like _ _⟩
      | some deepest => exact fun _ => ⟨rfl, like⟩
  | cons branch rest ih =>
      intro settled
      have settledFirst := first_branch_lasts Progress.lasting_exceeded keeps cursor branch rest
        deepest progress settled
      obtain ⟨outcome, between, between', ran, ran', likeBetween⟩ :=
        (follows branch cursor like).exists_answers settledFirst
      rw [Runner.branches, ran] at settled
      rw [Runner.branches, Runner.branches, ran, ran']
      cases outcome with
      | matched output next => exact ⟨rfl, likeBetween⟩
      | failed failure => exact ih _ likeBetween settled

include keeps in
theorem rounds_follows (inner : Node size) (most : Option Nat) (bound : List Char) (count : Nat)
    (outputs : List Output) (cursor : Cursor) {progress other : Progress}
    (like : alike progress other) :
    Progress.Follows alike (run.rounds inner most bound count outputs cursor progress)
      (run'.rounds inner most bound count outputs cursor other) := by
  have first {cursor : Cursor} {progress other between : Progress} {outcome : Outcome}
      (like : alike progress other) (ran : run inner cursor progress = (outcome, between))
      (settled : between.exceeded = none) :
      ∃ between', run' inner cursor other = (outcome, between') ∧ alike between between' := by
    have followed := follows inner cursor like
    rw [ran] at followed
    obtain ⟨_, _, between', same, ran', likeBetween⟩ := followed.exists_answers settled
    cases same
    exact ⟨between', ran', likeBetween⟩
  fun_induction Runner.rounds run inner most bound count outputs cursor progress
    generalizing other with
  | case1 _ _ _ _ _ full =>
      rw [rounds_full full]
      exact fun _ => ⟨rfl, like⟩
  | case2 _ _ _ _ _ notFull _ _ ran =>
      intro settled
      obtain ⟨_, ran', likeBetween⟩ := first like ran settled
      rw [rounds_failed notFull ran']
      exact ⟨rfl, likeBetween⟩
  | case3 _ _ _ _ _ notFull _ _ _ ran same =>
      intro settled
      obtain ⟨_, ran', likeBetween⟩ := first like ran settled
      rw [rounds_last notFull ran' (.inl same)]
      exact ⟨rfl, likeBetween⟩
  | case4 _ _ _ _ notFull _ _ _ ran =>
      intro settled
      obtain ⟨_, ran', likeBetween⟩ := first like ran settled
      rw [rounds_last notFull ran' (.inr rfl)]
      exact ⟨rfl, likeBetween⟩
  | case5 count outputs _ _ notFull output next between ran further c bound ih =>
      intro settled
      have settledFirst := rounds_lasts Progress.lasting_exceeded keeps inner most bound (count + 1)
        (output :: outputs) next between settled
      obtain ⟨_, ran', likeBetween⟩ := first like ran settledFirst
      rw [rounds_further notFull ran' further]
      exact ih likeBetween settled

include keeps likeness in
theorem node_follows (rules : RuleTable size) (node : Node size) (cursor : Cursor)
    {progress other : Progress} (like : alike progress other) :
    Progress.Follows alike (run.node rules node cursor progress)
      (run'.node rules node cursor other) := by
  have leaf (isLeaf : node.IsLeaf) :
      Progress.Follows alike (run.node rules node cursor progress)
        (run'.node rules node cursor other) := by
    rcases leaf_ends isLeaf rules cursor with ⟨next, matched⟩ | ⟨expected, failed⟩
    · rw [matched, matched]
      exact fun _ => ⟨rfl, like⟩
    · rw [failed, failed]
      exact fun _ => ⟨rfl, likeness.note like _ _⟩
  intro settled
  cases node with
  | literal | char | charClass | any => exact leaf trivial settled
  | sequence parts =>
      have settledInside :=
        sequence_notes Progress.lasting_exceeded.noting rules parts cursor progress settled
      obtain ⟨ended, after, after', ran, ran', likeAfter⟩ :=
        (parts_follows keeps follows parts cursor like).exists_answers settledInside
      simp only [Runner.node, ran, ran']
      cases ended with
      | error failure => exact ⟨rfl, likeAfter⟩
      | ok yielded =>
          simp only
          split
          · exact ⟨rfl, likeAfter⟩
          · exact ⟨rfl, likeness.note likeAfter _ _⟩
  | choice branches =>
      exact branches_follows likeness keeps follows cursor branches none like settled
  | repetition inner least most structured =>
      have settledInside := repetition_notes Progress.lasting_exceeded.noting rules inner least most
        structured cursor progress settled
      obtain ⟨rounds, after, after', ran, ran', likeAfter⟩ :=
        (rounds_follows keeps follows inner most cursor.rest 0 [] cursor like).exists_answers
          settledInside
      simp only [Runner.node, ran, ran']
      split
      · split
        · exact ⟨rfl, likeAfter⟩
        · exact ⟨rfl, likeness.note likeAfter _ _⟩
      · exact ⟨rfl, likeAfter⟩
  | absent inner =>
      have settledInside :=
        absent_notes Progress.lasting_exceeded.noting rules inner cursor progress settled
      obtain ⟨outcome, after, after', ran, ran', likeAfter⟩ :=
        (follows inner cursor (likeness.enter like)).exists_answers settledInside
      simp only [Runner.node, ran, ran']
      cases outcome with
      | matched output next => exact ⟨rfl, likeness.note (likeness.leave likeAfter) _ _⟩
      | failed failure => exact ⟨rfl, likeness.leave likeAfter⟩
  | capture name inner =>
      rw [capture_progress] at settled
      obtain ⟨outcome, after, after', ran, ran', likeAfter⟩ :=
        (follows inner cursor like).exists_answers settled
      simp only [Runner.node, ran, ran']
      cases outcome <;> exact ⟨rfl, likeAfter⟩
  | rule id => exact follows _ cursor like settled

end

end Runner

/-- A run that stays within its limit goes the same way with more levels and with progress like
its own. -/
theorem RuleTable.run_follows (likeness : Progress.Likeness alike) (rules : RuleTable size)
    {levels more : Nat} (enough : levels ≤ more) (node : Node size) (cursor : Cursor)
    {progress other : Progress} (like : alike progress other) :
    Progress.Follows alike (rules.run levels node cursor progress)
      (rules.run more node cursor other) := by
  induction levels generalizing more node cursor progress other with
  | zero =>
      intro settled
      cases settled
  | succ levels ih =>
      intro settled
      obtain ⟨more, rfl⟩ :=
        Nat.exists_eq_add_of_le' (Nat.lt_of_lt_of_le (Nat.zero_lt_succ _) enough)
      have fine : progress.exceeded = none :=
        rules.run_lasts Progress.lasting_exceeded (levels + 1) node cursor progress settled
      have fineOther := likeness.settled like fine
      rw [RuleTable.run_succ, fine] at settled
      rw [RuleTable.run_succ, RuleTable.run_succ, fine, fineOther]
      exact Runner.node_follows likeness (rules.run_lasts Progress.lasting_exceeded levels)
        (fun node cursor _ _ like => ih (Nat.le_of_succ_le_succ enough) node cursor like) rules node
        cursor like settled

end PegText
