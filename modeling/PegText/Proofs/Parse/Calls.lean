import PegText.Proofs.Parse.Runs

/-!
The calls that a run makes, one inside the other and one after the other, in lookaheads and in
rounds and branches that fail as well. A run exceeds its limit exactly if one of its calls has no
level left, however the outcome of that call is used.
-/

namespace PegText

variable {size : Nat}

structure Call (size : Nat) where
  levels : Nat
  node : Node size
  cursor : Cursor
  progress : Progress

namespace RuleTable

def answer (rules : RuleTable size) (call : Call size) : Outcome × Progress :=
  rules.run call.levels call.node call.cursor call.progress

/-- The calls made for a goal. What comes later is called with the progress that the earlier calls
left, and a call for a node goes one level deeper for what is inside. -/
inductive Calls (rules : RuleTable size) : Nat → Goal size → Cursor → Progress → Call size → Prop
  | here {levels node cursor progress} :
      Calls rules levels (.node node) cursor progress ⟨levels, node, cursor, progress⟩
  | sequence {levels parts cursor progress call} : progress.exceeded = none →
      Calls rules levels (.parts parts) cursor progress call →
      Calls rules (levels + 1) (.node (.sequence parts)) cursor progress call
  | choice {levels branches cursor progress call} : progress.exceeded = none →
      Calls rules levels (.branches branches) cursor progress call →
      Calls rules (levels + 1) (.node (.choice branches)) cursor progress call
  | repetition {levels inner least most structured cursor progress call} :
      progress.exceeded = none →
      Calls rules levels (.rounds inner most 0) cursor progress call →
      Calls rules (levels + 1) (.node (.repetition inner least most structured)) cursor progress
        call
  | absent {levels inner cursor progress call} : progress.exceeded = none →
      Calls rules levels (.node inner) cursor progress.enterLookahead call →
      Calls rules (levels + 1) (.node (.absent inner)) cursor progress call
  | capture {levels name inner cursor progress call} : progress.exceeded = none →
      Calls rules levels (.node inner) cursor progress call →
      Calls rules (levels + 1) (.node (.capture name inner)) cursor progress call
  | rule {levels id cursor progress call} : progress.exceeded = none →
      Calls rules levels (.node (rules.get id).body) cursor progress call →
      Calls rules (levels + 1) (.node (.rule id)) cursor progress call
  | firstPart {levels part rest cursor progress call} :
      Calls rules levels (.node part) cursor progress call →
      Calls rules levels (.parts (part :: rest)) cursor progress call
  | laterPart {levels part rest cursor progress output next between call} :
      rules.run levels part cursor progress = (.matched output next, between) →
      Calls rules levels (.parts rest) next between call →
      Calls rules levels (.parts (part :: rest)) cursor progress call
  | firstBranch {levels branch rest cursor progress call} :
      Calls rules levels (.node branch) cursor progress call →
      Calls rules levels (.branches (branch :: rest)) cursor progress call
  | laterBranch {levels branch rest cursor progress failure between call} :
      rules.run levels branch cursor progress = (.failed failure, between) →
      Calls rules levels (.branches rest) cursor between call →
      Calls rules levels (.branches (branch :: rest)) cursor progress call
  | firstRound {levels inner most count cursor progress call} : most.any (· ≤ count) = false →
      Calls rules levels (.node inner) cursor progress call →
      Calls rules levels (.rounds inner most count) cursor progress call
  | laterRound {levels inner most count cursor progress output next between call} :
      most.any (· ≤ count) = false →
      rules.run levels inner cursor progress = (.matched output next, between) →
      next.offset ≠ cursor.offset →
      Calls rules levels (.rounds inner most (count + 1)) next between call →
      Calls rules levels (.rounds inner most count) cursor progress call

end RuleTable

/-! A call without levels shows in the end, whatever is made of its outcome. -/

def Goal.Settles (run : Runner size) : Goal size → Cursor → Progress → Prop
  | .node inner, cursor, progress => (run inner cursor progress).2.exceeded = none
  | .parts all, cursor, progress => (run.parts all cursor progress).2.exceeded = none
  | .branches all, cursor, progress =>
      ∃ deepest, (run.branches cursor all deepest progress).2.exceeded = none
  | .rounds inner most count, cursor, progress =>
      ∃ bound outputs, cursor.rest.length ≤ bound.length ∧
        (run.rounds inner most bound count outputs cursor progress).2.exceeded = none

namespace RuleTable

variable {rules : RuleTable size} {facts : FactTable size} {levels : Nat} {cursor : Cursor}
  {progress : Progress}

theorem run_node {node : Node size} (fine : progress.exceeded = none) :
    rules.run (levels + 1) node cursor progress =
      (rules.run levels).node rules node cursor progress := by
  rw [run_succ, fine]
  rfl

theorem settles_node {node : Node size} (fine : progress.exceeded = none)
    (settles : Goal.Settles (rules.run (levels + 1)) (.node node) cursor progress) :
    ((rules.run levels).node rules node cursor progress).2.exceeded = none := by
  rwa [Goal.Settles, run_node fine] at settles

theorem run_keeps (rules : RuleTable size) (levels : Nat) (node : Node size) (cursor : Cursor)
    (progress : Progress) :
    (rules.run levels node cursor progress).2.exceeded = none → progress.exceeded = none :=
  rules.run_lasts Progress.lasting_exceeded levels node cursor progress

theorem Calls.settled (accepted : rules.Accepted facts) {goal : Goal size} {call : Call size}
    (calls : rules.Calls levels goal cursor progress call) (within : goal.Within rules)
    (settles : goal.Settles (rules.run levels) cursor progress) :
    (rules.answer call).2.exceeded = none := by
  induction calls with
  | here => exact settles
  | @sequence levels parts cursor progress _ fine _ ih =>
      refine ih (fun part member => mem_nodes_of_inner within (Node.mem_nodes_sequence member)) ?_
      exact Runner.sequence_notes Progress.lasting_exceeded.noting rules parts cursor progress
        (settles_node fine settles)
  | @choice levels branches cursor progress _ fine _ ih =>
      exact ih (fun branch member => mem_nodes_of_inner within (Node.mem_nodes_choice member))
        ⟨none, settles_node fine settles⟩
  | @repetition levels inner least most structured cursor progress _ fine _ ih =>
      refine ih (mem_nodes_of_inner within Node.mem_nodes_repetition)
        ⟨cursor.rest, [], Nat.le_refl _, ?_⟩
      exact Runner.repetition_notes Progress.lasting_exceeded.noting rules inner least most
        structured cursor progress (settles_node fine settles)
  | @absent levels inner cursor progress _ fine _ ih =>
      refine ih (mem_nodes_of_inner within Node.mem_nodes_absent) ?_
      exact Runner.absent_notes Progress.lasting_exceeded.noting rules inner cursor progress
        (settles_node fine settles)
  | @capture levels name inner cursor progress _ fine _ ih =>
      refine ih (mem_nodes_of_inner within Node.mem_nodes_capture) ?_
      have settled := settles_node fine settles
      rwa [Runner.capture_progress] at settled
  | @rule levels id cursor progress _ fine _ ih =>
      exact ih (rules.body_mem_nodes id) (settles_node fine settles)
  | @firstPart levels part rest cursor progress _ _ ih =>
      refine ih (within part List.mem_cons_self) ?_
      exact Runner.first_part_lasts Progress.lasting_exceeded (run_keeps rules levels) part rest
        cursor progress settles
  | @laterPart levels part rest cursor progress output next between _ ran _ ih =>
      refine ih (fun later member => within later (List.mem_cons_of_mem _ member)) ?_
      have settled : ((rules.run levels).parts (part :: rest) cursor progress).2.exceeded = none :=
        settles
      rwa [Runner.parts_progress ran] at settled
  | @firstBranch levels branch rest cursor progress _ _ ih =>
      obtain ⟨deepest, settled⟩ := settles
      refine ih (within branch List.mem_cons_self) ?_
      exact Runner.first_branch_lasts Progress.lasting_exceeded (run_keeps rules levels) cursor
        branch rest deepest progress settled
  | @laterBranch levels branch rest cursor progress failure between _ ran _ ih =>
      obtain ⟨deepest, settled⟩ := settles
      rw [Runner.branches, ran] at settled
      exact ih (fun later member => within later (List.mem_cons_of_mem _ member)) ⟨_, settled⟩
  | @firstRound levels inner most count cursor progress _ notFull _ ih =>
      obtain ⟨bound, outputs, -, settled⟩ := settles
      refine ih within ?_
      exact Runner.first_round_lasts Progress.lasting_exceeded (run_keeps rules levels) inner bound
        notFull outputs cursor progress settled
  | @laterRound levels inner most count cursor progress output next between _ notFull ran further _
      ih =>
      obtain ⟨bound, outputs, bounded, settled⟩ := settles
      -- the round has consumed a character, so the bound was not used up
      have sound : Runner.Sound rules True (rules.run levels) := run_sound accepted levels
      have derives := sound.derives within cursor progress (.inl trivial)
      rw [ran] at derives
      obtain ⟨passed, passes⟩ := derives.passes
      have shorter := (passes.rest_lt further).1
      cases bound with
      | nil =>
          rw [List.length_nil] at bounded
          omega
      | cons c bound =>
          rw [List.length_cons] at bounded
          rw [Runner.rounds, if_neg (Bool.eq_false_iff.mp notFull), ran] at settled
          simp only [if_neg further] at settled
          exact ih within ⟨bound, _, by omega, settled⟩

/-! Where a run exceeds its limit, one of its calls has no level left. -/

def Overruns (rules : RuleTable size) (levels : Nat) (goal : Goal size) (cursor : Cursor)
    (progress : Progress) (position : Nat) : Prop :=
  ∃ call, rules.Calls levels goal cursor progress call ∧ call.levels = 0 ∧
    call.progress.exceeded = none ∧ call.cursor.offset = position

/-- What went beyond the limit at a position did so already in between, or it was within the limit
until then. -/
theorem exceeded_or_settled {between after : Progress} {position : Nat}
    (lasts : ∀ other, between.exceeded = some other → after.exceeded = some other)
    (exceeded : after.exceeded = some position) :
    between.exceeded = some position ∨ between.exceeded = none := by
  cases known : between.exceeded with
  | none => exact .inr rfl
  | some other => exact .inl ((lasts other known).symm.trans exceeded)

section

variable {position : Nat}
  (overruns : ∀ node cursor progress, progress.exceeded = none →
    (rules.run levels node cursor progress).2.exceeded = some position →
      rules.Overruns levels (.node node) cursor progress position)

include overruns

theorem parts_overrun {parts : List (Node size)} (fine : progress.exceeded = none)
    (exceeded : ((rules.run levels).parts parts cursor progress).2.exceeded = some position) :
    rules.Overruns levels (.parts parts) cursor progress position := by
  induction parts generalizing cursor progress with
  | nil =>
      cases fine.symm.trans exceeded
  | cons part rest ih =>
      have lasts := Runner.first_part_lasts Progress.lasting_position
        (rules.run_lasts Progress.lasting_position levels) part rest cursor progress
      have first := overruns part cursor progress fine
      rcases ran : rules.run levels part cursor progress with ⟨outcome, between⟩
      rw [ran] at lasts first
      have here : between.exceeded = some position →
          rules.Overruns levels (.parts (part :: rest)) cursor progress position := by
        intro beyond
        obtain ⟨call, calls, stuck⟩ := first beyond
        exact ⟨call, .firstPart calls, stuck⟩
      rcases exceeded_or_settled lasts exceeded with beyond | settled
      · exact here beyond
      cases outcome with
      | failed failure =>
          rw [Runner.parts, ran] at exceeded
          exact here exceeded
      | matched output next =>
          rw [Runner.parts_progress ran] at exceeded
          obtain ⟨call, calls, stuck⟩ := ih settled exceeded
          exact ⟨call, .laterPart ran calls, stuck⟩

theorem branches_overrun {branches : List (Node size)} {deepest : Option Failure}
    (fine : progress.exceeded = none)
    (exceeded : ((rules.run levels).branches cursor branches deepest progress).2.exceeded =
      some position) :
    rules.Overruns levels (.branches branches) cursor progress position := by
  induction branches generalizing deepest progress with
  | nil =>
      cases deepest with
      | none =>
          rw [Runner.branches, Progress.fail, Progress.exceeded_note, fine] at exceeded
          cases exceeded
      | some deepest => cases fine.symm.trans exceeded
  | cons branch rest ih =>
      have lasts := Runner.first_branch_lasts Progress.lasting_position
        (rules.run_lasts Progress.lasting_position levels) cursor branch rest deepest progress
      have first := overruns branch cursor progress fine
      rcases ran : rules.run levels branch cursor progress with ⟨outcome, between⟩
      rw [ran] at lasts first
      have here : between.exceeded = some position →
          rules.Overruns levels (.branches (branch :: rest)) cursor progress position := by
        intro beyond
        obtain ⟨call, calls, stuck⟩ := first beyond
        exact ⟨call, .firstBranch calls, stuck⟩
      rcases exceeded_or_settled lasts exceeded with beyond | settled
      · exact here beyond
      rw [Runner.branches, ran] at exceeded
      cases outcome with
      | matched output next => exact here exceeded
      | failed failure =>
          obtain ⟨call, calls, stuck⟩ := ih settled exceeded
          exact ⟨call, .laterBranch ran calls, stuck⟩

theorem first_round_overruns {inner : Node size} {most : Option Nat} {count : Nat}
    {outcome : Outcome} {between : Progress} (notFull : ¬most.any (· ≤ count) = true)
    (fine : progress.exceeded = none)
    (ran : rules.run levels inner cursor progress = (outcome, between))
    (beyond : between.exceeded = some position) :
    rules.Overruns levels (.rounds inner most count) cursor progress position := by
  have exceeded : (rules.run levels inner cursor progress).2.exceeded = some position := by
    rw [ran]
    exact beyond
  obtain ⟨call, calls, stuck⟩ := overruns inner cursor progress fine exceeded
  exact ⟨call, .firstRound (Bool.eq_false_iff.mpr notFull) calls, stuck⟩

theorem rounds_overrun {inner : Node size} {most : Option Nat} {bound : List Char} {count : Nat}
    {outputs : List Output} (fine : progress.exceeded = none)
    (exceeded : ((rules.run levels).rounds inner most bound count outputs cursor
      progress).2.exceeded = some position) :
    rules.Overruns levels (.rounds inner most count) cursor progress position := by
  fun_induction Runner.rounds (rules.run levels) inner most bound count outputs cursor progress with
  | case1 => cases fine.symm.trans exceeded
  | case2 _ _ _ _ _ notFull _ _ ran =>
      exact first_round_overruns overruns notFull fine ran exceeded
  | case3 _ _ _ _ _ notFull _ _ _ ran =>
      exact first_round_overruns overruns notFull fine ran exceeded
  | case4 _ _ _ _ notFull _ _ _ ran =>
      exact first_round_overruns overruns notFull fine ran exceeded
  | case5 count outputs _ _ notFull output next between ran further _ bound ih =>
      have lasts := Runner.rounds_lasts Progress.lasting_position
        (rules.run_lasts Progress.lasting_position levels) inner most bound (count + 1)
        (output :: outputs) next between
      rcases exceeded_or_settled lasts exceeded with beyond | settled
      · exact first_round_overruns overruns notFull fine ran beyond
      · obtain ⟨call, calls, stuck⟩ := ih settled exceeded
        exact ⟨call, .laterRound (Bool.eq_false_iff.mpr notFull) ran further calls, stuck⟩

theorem node_overrun {node : Node size} (fine : progress.exceeded = none)
    (exceeded : ((rules.run levels).node rules node cursor progress).2.exceeded = some position) :
    rules.Overruns (levels + 1) (.node node) cursor progress position := by
  have leaf (isLeaf : node.IsLeaf) : False := by
    rw [Runner.leaf_notes Progress.noting_exceeded rules isLeaf, fine] at exceeded
    cases exceeded
  cases node with
  | literal | char | charClass | any => exact (leaf trivial).elim
  | sequence parts =>
      rw [Runner.sequence_notes Progress.noting_exceeded] at exceeded
      obtain ⟨call, calls, stuck⟩ := parts_overrun overruns fine exceeded
      exact ⟨call, .sequence fine calls, stuck⟩
  | choice branches =>
      obtain ⟨call, calls, stuck⟩ := branches_overrun overruns fine exceeded
      exact ⟨call, .choice fine calls, stuck⟩
  | repetition inner least most structured =>
      rw [Runner.repetition_notes Progress.noting_exceeded] at exceeded
      obtain ⟨call, calls, stuck⟩ := rounds_overrun overruns fine exceeded
      exact ⟨call, .repetition fine calls, stuck⟩
  | absent inner =>
      rw [Runner.absent_notes Progress.noting_exceeded] at exceeded
      obtain ⟨call, calls, stuck⟩ := overruns inner cursor progress.enterLookahead fine exceeded
      exact ⟨call, .absent fine calls, stuck⟩
  | capture name inner =>
      rw [Runner.capture_progress] at exceeded
      obtain ⟨call, calls, stuck⟩ := overruns inner cursor progress fine exceeded
      exact ⟨call, .capture fine calls, stuck⟩
  | rule id =>
      obtain ⟨call, calls, stuck⟩ := overruns _ cursor progress fine exceeded
      exact ⟨call, .rule fine calls, stuck⟩

end

/-- A run that goes beyond its limit does so at a call without levels. -/
theorem run_overruns (rules : RuleTable size) (levels : Nat) (node : Node size) (cursor : Cursor)
    (progress : Progress) (fine : progress.exceeded = none) {position : Nat}
    (exceeded : (rules.run levels node cursor progress).2.exceeded = some position) :
    rules.Overruns levels (.node node) cursor progress position := by
  induction levels generalizing node cursor progress with
  | zero =>
      have here : (progress.exceed cursor).2.exceeded = some position := exceeded
      rw [Progress.exceed, fine] at here
      exact ⟨_, .here, rfl, fine, Option.some.inj here⟩
  | succ levels ih =>
      rw [run_node fine] at exceeded
      exact node_overrun ih fine exceeded

theorem answer_of_levels_eq_zero (rules : RuleTable size) {call : Call size}
    (stuck : call.levels = 0) : (rules.answer call).2.exceeded ≠ none := by
  rw [answer, stuck]
  exact Option.some_ne_none _

/-- A run stays within its limit exactly if each of its calls has a level. -/
theorem Accepted.exceeds_iff (accepted : rules.Accepted facts) {node : Node size}
    (within : node ∈ rules.nodes) (fine : progress.exceeded = none) :
    (rules.run levels node cursor progress).2.exceeded ≠ none ↔
      ∃ call, rules.Calls levels (.node node) cursor progress call ∧ call.levels = 0 := by
  constructor
  · intro exceeds
    obtain ⟨position, exceeded⟩ := Option.ne_none_iff_exists'.mp exceeds
    obtain ⟨call, calls, stuck, -, -⟩ :=
      rules.run_overruns levels node cursor progress fine exceeded
    exact ⟨call, calls, stuck⟩
  · rintro ⟨call, calls, stuck⟩ settled
    exact rules.answer_of_levels_eq_zero stuck (calls.settled accepted within settled)

end RuleTable

end PegText
