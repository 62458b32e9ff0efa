import PegText.Proofs.Entries
import PegText.Proofs.Parse.Limits
import Mathlib.Order.Bounds.Basic

/-!
The failures of a parse. Of all that fails outside lookaheads, the progress keeps the furthest position
and what was expected there, whatever becomes of the matches that have failed.
-/

namespace PegText

namespace Progress

@[simp]
theorem lookahead_note (progress : Progress) (position : Nat) (expected : String) :
    (progress.note position expected).lookahead = progress.lookahead := by
  rw [note]
  split
  · rfl
  · split <;> rfl

structure Keeps (progress : Progress) (failures : Set Failure) : Prop where
  furthest : ∀ failure ∈ failures, failure.position ≤ progress.furthest
  reached : progress.furthest = 0 ∨ ∃ failure ∈ failures, failure.position = progress.furthest
  expected : ∀ text, text ∈ progress.expected ↔ ⟨progress.furthest, text⟩ ∈ failures
  sorted : Names.Sorted progress.expected

namespace Keeps

variable {progress : Progress} {failures : Set Failure}

theorem initial : Progress.initial.Keeps ∅ where
  furthest _ := False.elim
  reached := .inl rfl
  expected _ := by simp [Progress.initial]
  sorted := List.Pairwise.nil

theorem note (keeps : progress.Keeps failures) (visible : progress.lookahead = 0) (position : Nat)
    (text : String) : (progress.note position text).Keeps (failures ∪ {⟨position, text⟩}) := by
  rw [Progress.note]
  split
  next skipped =>
    have behind : position < progress.furthest := by omega
    refine ⟨?_, ?_, ?_, keeps.sorted⟩
    · rintro failure (earlier | rfl)
      · exact keeps.furthest failure earlier
      · exact behind.le
    · refine keeps.reached.imp_right ?_
      rintro ⟨failure, earlier, same⟩
      exact ⟨failure, .inl earlier, same⟩
    · intro other
      simp [keeps.expected, behind.ne']
  next =>
    split
    next same =>
      refine ⟨?_, .inr ⟨_, .inr rfl, same⟩, ?_, Names.sorted_insert keeps.sorted⟩
      · rintro failure (earlier | rfl)
        · exact keeps.furthest failure earlier
        · exact same.le
      · intro other
        simp [keeps.expected, same]
    next different =>
      have beyond : progress.furthest < position := by omega
      refine ⟨?_, .inr ⟨_, .inr rfl, rfl⟩, ?_, List.pairwise_singleton _ _⟩
      · rintro failure (earlier | rfl)
        · exact (keeps.furthest failure earlier).trans beyond.le
        · exact Nat.le_refl _
      · intro other
        have fresh : ⟨position, other⟩ ∉ failures := fun earlier =>
          Nat.not_lt.mpr (keeps.furthest _ earlier) beyond
        simp [fresh]

/-- Where anything has failed, the furthest position is the greatest one of a failure. -/
theorem isGreatest (keeps : progress.Keeps failures) (some : failures.Nonempty) :
    IsGreatest (Failure.position '' failures) progress.furthest := by
  constructor
  · obtain ⟨failure, member⟩ := some
    rcases keeps.reached with start | reached
    · have position := keeps.furthest failure member
      exact ⟨failure, member, by omega⟩
    · exact reached
  · rintro _ ⟨failure, member, rfl⟩
    exact keeps.furthest failure member

end Keeps

end Progress

variable {size : Nat}

namespace RuleTable

/-- The failures of the matches that a run for a goal tries, however their outcome is used. What is
tried in a lookahead is left out; that the lookahead itself fails is not. -/
inductive Misses (rules : RuleTable size) :
    Nat → Goal size → Cursor → Progress → Failure → Prop
  | here {levels node cursor progress failure} :
      (rules.run levels node cursor progress).1 = .failed failure →
      Misses rules levels (.node node) cursor progress failure
  | sequence {levels parts cursor progress failure} : progress.exceeded = none →
      Misses rules levels (.parts parts) cursor progress failure →
      Misses rules (levels + 1) (.node (.sequence parts)) cursor progress failure
  | choice {levels branches cursor progress failure} : progress.exceeded = none →
      Misses rules levels (.branches branches) cursor progress failure →
      Misses rules (levels + 1) (.node (.choice branches)) cursor progress failure
  | repetition {levels inner least most structured cursor progress failure} :
      progress.exceeded = none → Misses rules levels (.rounds inner most 0) cursor progress failure →
      Misses rules (levels + 1) (.node (.repetition inner least most structured)) cursor progress
        failure
  | capture {levels name inner cursor progress failure} : progress.exceeded = none →
      Misses rules levels (.node inner) cursor progress failure →
      Misses rules (levels + 1) (.node (.capture name inner)) cursor progress failure
  | rule {levels id cursor progress failure} : progress.exceeded = none →
      Misses rules levels (.node (rules.get id).body) cursor progress failure →
      Misses rules (levels + 1) (.node (.rule id)) cursor progress failure
  | firstPart {levels part rest cursor progress failure} :
      Misses rules levels (.node part) cursor progress failure →
      Misses rules levels (.parts (part :: rest)) cursor progress failure
  | laterPart {levels part rest cursor progress output next between failure} :
      rules.run levels part cursor progress = (.matched output next, between) →
      Misses rules levels (.parts rest) next between failure →
      Misses rules levels (.parts (part :: rest)) cursor progress failure
  | firstBranch {levels branch rest cursor progress failure} :
      Misses rules levels (.node branch) cursor progress failure →
      Misses rules levels (.branches (branch :: rest)) cursor progress failure
  | laterBranch {levels branch rest cursor progress first between failure} :
      rules.run levels branch cursor progress = (.failed first, between) →
      Misses rules levels (.branches rest) cursor between failure →
      Misses rules levels (.branches (branch :: rest)) cursor progress failure
  | firstRound {levels inner most count cursor progress failure} :
      most.any (· ≤ count) = false → Misses rules levels (.node inner) cursor progress failure →
      Misses rules levels (.rounds inner most count) cursor progress failure
  | laterRound {levels inner most count cursor progress output next between failure} :
      most.any (· ≤ count) = false →
      rules.run levels inner cursor progress = (.matched output next, between) →
      next.offset ≠ cursor.offset →
      Misses rules levels (.rounds inner most (count + 1)) next between failure →
      Misses rules levels (.rounds inner most count) cursor progress failure

def misses (rules : RuleTable size) (levels : Nat) (goal : Goal size) (cursor : Cursor)
    (progress : Progress) : Set Failure :=
  { failure | rules.Misses levels goal cursor progress failure }

def missesInside (rules : RuleTable size) (levels : Nat) (node : Node size) (cursor : Cursor)
    (progress : Progress) : Set Failure :=
  match node with
  | .literal _ | .char _ | .charClass _ _ | .any | .absent _ => ∅
  | .sequence parts => rules.misses levels (.parts parts) cursor progress
  | .choice branches => rules.misses levels (.branches branches) cursor progress
  | .repetition inner _ most _ => rules.misses levels (.rounds inner most 0) cursor progress
  | .capture _ inner => rules.misses levels (.node inner) cursor progress
  | .rule id => rules.misses levels (.node (rules.get id).body) cursor progress

variable {rules : RuleTable size} {levels : Nat} {cursor : Cursor} {progress : Progress}

/-! Whatever is noted in a lookahead, progress comes out of it as it went in. -/

def Blind (before after : Progress) : Prop :=
  after.lookahead = before.lookahead ∧
    (before.lookahead ≠ 0 →
      after.furthest = before.furthest ∧ after.expected = before.expected)

theorem lasting_blind : Progress.Lasting Blind where
  refl _ := ⟨rfl, fun _ => ⟨rfl, rfl⟩⟩
  trans one two := by
    refine ⟨two.1.trans one.1, fun inside => ?_⟩
    have first := one.2 inside
    have second := two.2 (one.1 ▸ inside)
    exact ⟨second.1.trans first.1, second.2.trans first.2⟩
  note progress position expected := by
    refine ⟨Progress.lookahead_note _ _ _, fun inside => ?_⟩
    rw [Progress.note, if_pos (.inl inside)]
    exact ⟨rfl, rfl⟩
  exceed _ _ := ⟨rfl, fun _ => ⟨rfl, rfl⟩⟩
  lookahead inside := by
    have same := inside.2 (Nat.succ_ne_zero _)
    refine ⟨?_, fun _ => same⟩
    rw [Progress.leaveLookahead, inside.1]
    rfl

theorem lookahead_run (rules : RuleTable size) (levels : Nat) (node : Node size) (cursor : Cursor)
    (progress : Progress) :
    (rules.run levels node cursor progress).2.lookahead = progress.lookahead :=
  (rules.run_lasts lasting_blind levels node cursor progress).1

theorem misses_node (fine : progress.exceeded = none) (node : Node size) :
    rules.misses (levels + 1) (.node node) cursor progress =
      rules.missesInside levels node cursor progress ∪
        { failure | (rules.run (levels + 1) node cursor progress).1 = .failed failure } := by
  ext failure
  constructor
  · intro missed
    cases missed with
    | here failed => exact .inr failed
    | sequence _ inside | choice _ inside | repetition _ inside | capture _ inside
    | rule _ inside => exact .inl inside
  · rintro (inside | failed)
    · cases node with
      | literal | char | charClass | any | absent => exact inside.elim
      | sequence => exact .sequence fine inside
      | choice => exact .choice fine inside
      | repetition => exact .repetition fine inside
      | capture => exact .capture fine inside
      | rule => exact .rule fine inside
    · exact .here failed

theorem misses_parts_nil : rules.misses levels (.parts []) cursor progress = ∅ :=
  Set.eq_empty_of_forall_notMem fun _ missed => by cases missed

theorem misses_parts_cons (part : Node size) (rest : List (Node size)) :
    rules.misses levels (.parts (part :: rest)) cursor progress =
      rules.misses levels (.node part) cursor progress ∪
        match rules.run levels part cursor progress with
        | (.matched _ next, between) => rules.misses levels (.parts rest) next between
        | (.failed _, _) => ∅ := by
  ext failure
  constructor
  · intro missed
    cases missed with
    | firstPart first => exact .inl first
    | laterPart matched later =>
        rw [matched]
        exact .inr later
  · rintro (first | later)
    · exact .firstPart first
    · rcases ran : rules.run levels part cursor progress with ⟨_ | _, between⟩
      all_goals rw [ran] at later
      · exact .laterPart ran later
      · exact later.elim

theorem misses_branches_nil : rules.misses levels (.branches []) cursor progress = ∅ :=
  Set.eq_empty_of_forall_notMem fun _ missed => by cases missed

theorem misses_branches_cons (branch : Node size) (rest : List (Node size)) :
    rules.misses levels (.branches (branch :: rest)) cursor progress =
      rules.misses levels (.node branch) cursor progress ∪
        match rules.run levels branch cursor progress with
        | (.matched _ _, _) => ∅
        | (.failed _, between) => rules.misses levels (.branches rest) cursor between := by
  ext failure
  constructor
  · intro missed
    cases missed with
    | firstBranch first => exact .inl first
    | laterBranch failed later =>
        rw [failed]
        exact .inr later
  · rintro (first | later)
    · exact .firstBranch first
    · rcases ran : rules.run levels branch cursor progress with ⟨_ | _, between⟩
      all_goals rw [ran] at later
      · exact later.elim
      · exact .laterBranch ran later

section

variable {inner : Node size} {most : Option Nat} {count : Nat}

theorem misses_rounds_full (full : most.any (· ≤ count) = true) :
    rules.misses levels (.rounds inner most count) cursor progress = ∅ := by
  refine Set.eq_empty_of_forall_notMem fun _ missed => ?_
  cases missed with
  | firstRound notFull | laterRound notFull => cases full.symm.trans notFull

theorem misses_rounds (notFull : most.any (· ≤ count) = false) :
    rules.misses levels (.rounds inner most count) cursor progress =
      rules.misses levels (.node inner) cursor progress ∪
        match rules.run levels inner cursor progress with
        | (.matched _ next, between) =>
            if next.offset = cursor.offset then ∅
            else rules.misses levels (.rounds inner most (count + 1)) next between
        | (.failed _, _) => ∅ := by
  ext failure
  constructor
  · intro missed
    cases missed with
    | firstRound _ first => exact .inl first
    | laterRound _ matched further later =>
        rw [matched]
        simp only [if_neg further]
        exact .inr later
  · rintro (first | later)
    · exact .firstRound notFull first
    · rcases ran : rules.run levels inner cursor progress with ⟨_ | _, between⟩
      all_goals rw [ran] at later
      · simp only at later
        split at later
        · exact later.elim
        next further => exact .laterRound notFull ran further later
      · exact later.elim

end

structure Tells (misses : Set Failure) (cursor : Cursor) (before after : Progress) : Prop where
  keeps : ∀ earlier, before.Keeps earlier → after.Keeps (earlier ∪ misses)
  positions : ∀ failure ∈ misses, ∃ passed next, cursor.Passes passed next ∧
    next.offset = failure.position

namespace Tells

variable {misses more : Set Failure} {next : Cursor} {passed : List Char}
  {between after : Progress}

theorem of_same (cursor : Cursor) (furthest : after.furthest = progress.furthest)
    (expected : after.expected = progress.expected) : Tells ∅ cursor progress after where
  keeps earlier kept := by
    rw [Set.union_empty]
    refine ⟨?_, ?_, ?_, ?_⟩
    all_goals simp only [furthest, expected]
    · exact kept.furthest
    · exact kept.reached
    · exact kept.expected
    · exact kept.sorted
  positions _ := False.elim

theorem refl (cursor : Cursor) (progress : Progress) : Tells ∅ cursor progress progress :=
  of_same cursor rfl rfl

theorem trans (one : Tells misses cursor progress between)
    (passes : cursor.Passes passed next) (two : Tells more next between after) :
    Tells (misses ∪ more) cursor progress after where
  keeps earlier kept := by
    rw [← Set.union_assoc]
    exact two.keeps _ (one.keeps _ kept)
  positions failure member := by
    rcases member with first | second
    · exact one.positions failure first
    · obtain ⟨further, stop, beyond, same⟩ := two.positions failure second
      exact ⟨_, stop, passes.trans beyond, same⟩

theorem note (visible : progress.lookahead = 0) (passes : cursor.Passes passed next)
    (text : String) :
    Tells {⟨next.offset, text⟩} cursor progress (progress.note next.offset text) where
  keeps earlier kept := kept.note visible next.offset text
  positions failure member := by
    cases member
    exact ⟨passed, next, passes, rfl⟩

end Tells

inductive Closes (inside : Set Failure) (cursor : Cursor) (progress : Progress) :
    Outcome × Progress → Prop
  | matched {output next} : Closes inside cursor progress (.matched output next, progress)
  | passedOn {failure} : failure ∈ inside →
      Closes inside cursor progress (.failed failure, progress)
  | missed {passed stop} (text : String) : cursor.Passes passed stop →
      Closes inside cursor progress (progress.fail stop text)

theorem Closes.tells {inside : Set Failure} {before : Progress} {answer : Outcome × Progress}
    (closes : Closes inside cursor progress answer) (visible : progress.lookahead = 0)
    (tells : Tells inside cursor before progress) :
    Tells (inside ∪ { failure | answer.1 = .failed failure }) cursor before answer.2 := by
  cases closes with
  | matched => simpa using tells
  | @passedOn failure member =>
      have same : inside ∪ { other | Outcome.failed failure = .failed other } = inside := by
        simpa using member
      rwa [same]
  | @missed passed stop text passes =>
      have same : { other | (progress.fail stop text).1 = .failed other } =
          {⟨stop.offset, text⟩} := by
        ext other
        simp [Progress.fail, eq_comm]
      rw [same]
      exact tells.trans (.refl cursor) (.note visible passes text)

theorem Accepted.passes_of_run {facts : FactTable size} (accepted : rules.Accepted facts)
    {node : Node size} {output : Output} {next : Cursor}
    {after : Progress} (within : node ∈ rules.nodes)
    (ran : rules.run levels node cursor progress = (.matched output next, after)) :
    ∃ passed, cursor.Passes passed next := by
  have sound : Runner.Sound rules True (rules.run levels) := run_sound accepted levels
  have derives := sound.derives within cursor progress (.inl trivial)
  rw [ran] at derives
  exact derives.passes

section

variable
  (below : ∀ {node}, node ∈ rules.nodes → ∀ cursor progress, progress.lookahead = 0 →
    (rules.run levels node cursor progress).2.exceeded = none →
      Tells (rules.misses levels (.node node) cursor progress) cursor progress
        (rules.run levels node cursor progress).2)

include below

theorem branches_tell {branches : List (Node size)}
    (within : ∀ branch ∈ branches, branch ∈ rules.nodes) {deepest : Option Failure}
    {known : Set Failure} (among : ∀ failure, deepest = some failure → failure ∈ known)
    (visible : progress.lookahead = 0)
    (settled : ((rules.run levels).branches cursor branches deepest progress).2.exceeded = none) :
    ∃ after, Tells (rules.misses levels (.branches branches) cursor progress) cursor progress after ∧
      after.lookahead = 0 ∧
        Closes (known ∪ rules.misses levels (.branches branches) cursor progress) cursor after
          ((rules.run levels).branches cursor branches deepest progress) := by
  induction branches generalizing deepest known progress with
  | nil =>
      rw [misses_branches_nil]
      refine ⟨progress, .refl cursor progress, visible, ?_⟩
      cases deepest with
      | none => exact .missed _ (.refl cursor)
      | some failure => exact .passedOn (.inl (among failure rfl))
  | cons branch rest ih =>
      obtain ⟨here, behind⟩ := List.forall_mem_cons.mp within
      have first := below here cursor progress visible
        (Runner.first_branch_lasts Progress.lasting_exceeded (run_keeps rules levels) cursor branch
          rest deepest progress settled)
      have seen := lookahead_run rules levels branch cursor progress
      rw [misses_branches_cons]
      rcases ran : rules.run levels branch cursor progress with ⟨outcome, between⟩
      rw [ran] at first seen
      rw [Runner.branches, ran] at settled ⊢
      cases outcome with
      | matched output next =>
          rw [Set.union_empty]
          exact ⟨between, first, seen.trans visible, .matched⟩
      | failed failure =>
          have missed : failure ∈ rules.misses levels (.node branch) cursor progress :=
            .here (by rw [ran])
          have amongBoth : ∀ other, some (Failure.deeper deepest failure) = some other →
              other ∈ known ∪ rules.misses levels (.node branch) cursor progress := by
            rintro other same
            cases same
            rw [Failure.deeper.eq_def]
            split
            · exact .inr missed
            · split
              · exact .inr missed
              · exact .inl (among _ rfl)
          obtain ⟨after, tells, seenAfter, closes⟩ :=
            ih behind amongBoth (seen.trans visible) settled
          rw [Set.union_assoc] at closes
          exact ⟨after, first.trans (.refl cursor) tells, seenAfter, closes⟩

variable {facts : FactTable size} (accepted : rules.Accepted facts)

include accepted

theorem parts_tell {parts : List (Node size)} (within : ∀ part ∈ parts, part ∈ rules.nodes)
    (visible : progress.lookahead = 0)
    (settled : ((rules.run levels).parts parts cursor progress).2.exceeded = none) :
    Tells (rules.misses levels (.parts parts) cursor progress) cursor progress
        ((rules.run levels).parts parts cursor progress).2 ∧
      ∀ failure, ((rules.run levels).parts parts cursor progress).1 = .error failure →
        failure ∈ rules.misses levels (.parts parts) cursor progress := by
  induction parts generalizing cursor progress with
  | nil =>
      rw [misses_parts_nil]
      refine ⟨.refl cursor progress, ?_⟩
      rintro _ ⟨⟩
  | cons part rest ih =>
      obtain ⟨here, behind⟩ := List.forall_mem_cons.mp within
      have first := below here cursor progress visible
        (Runner.first_part_lasts Progress.lasting_exceeded (run_keeps rules levels) part rest cursor
          progress settled)
      have seen := lookahead_run rules levels part cursor progress
      rw [misses_parts_cons]
      rcases ran : rules.run levels part cursor progress with ⟨outcome, between⟩
      rw [ran] at first seen
      rw [Runner.parts, ran] at settled ⊢
      cases outcome with
      | failed failure =>
          rw [Set.union_empty]
          refine ⟨first, fun other same => ?_⟩
          cases same
          exact .here (by rw [ran])
      | matched output next =>
          obtain ⟨passed, passes⟩ := accepted.passes_of_run here ran
          have later := @ih next between behind (seen.trans visible)
          rcases ranLater : (rules.run levels).parts rest next between with ⟨ended, after⟩
          rw [ranLater] at later
          simp only [ranLater] at settled ⊢
          cases ended with
          | error failure =>
              obtain ⟨tells, missed⟩ := later settled
              refine ⟨first.trans passes tells, fun other same => ?_⟩
              cases same
              exact .inr (missed failure rfl)
          | ok yielded =>
              obtain ⟨tells, -⟩ := later settled
              refine ⟨first.trans passes tells, ?_⟩
              rintro _ ⟨⟩

theorem rounds_tell {inner : Node size} (within : inner ∈ rules.nodes) (most : Option Nat)
    (bound : List Char) (count : Nat) (outputs : List Output) (cursor : Cursor)
    (progress : Progress) (bounded : cursor.rest.length ≤ bound.length)
    (visible : progress.lookahead = 0)
    (settled : ((rules.run levels).rounds inner most bound count outputs cursor
      progress).2.exceeded = none) :
    Tells (rules.misses levels (.rounds inner most count) cursor progress) cursor progress
        ((rules.run levels).rounds inner most bound count outputs cursor progress).2 ∧
      (∃ passed, cursor.Passes passed
        ((rules.run levels).rounds inner most bound count outputs cursor progress).1.stop) ∧
      ∀ failure,
        ((rules.run levels).rounds inner most bound count outputs cursor progress).1.failure =
            some failure →
          failure ∈ rules.misses levels (.rounds inner most count) cursor progress := by
  by_cases full : most.any (· ≤ count) = true
  · rw [Runner.rounds.eq_def, if_pos full, misses_rounds_full full]
    refine ⟨.refl cursor progress, ⟨[], .refl cursor⟩, ?_⟩
    rintro _ ⟨⟩
  have notFull := Bool.eq_false_iff.mpr full
  have first := below within cursor progress visible
    (Runner.first_round_lasts Progress.lasting_exceeded (run_keeps rules levels) inner bound notFull
      outputs cursor progress settled)
  have seen := lookahead_run rules levels inner cursor progress
  rw [misses_rounds notFull]
  rw [Runner.rounds.eq_def, if_neg full] at settled ⊢
  rcases ran : rules.run levels inner cursor progress with ⟨outcome, between⟩
  rw [ran] at first seen settled
  cases outcome with
  | failed failure =>
      rw [Set.union_empty]
      refine ⟨first, ⟨[], .refl cursor⟩, fun other same => ?_⟩
      cases same
      exact .here (by rw [ran])
  | matched output next =>
      obtain ⟨passed, passes⟩ := accepted.passes_of_run within ran
      by_cases empty : next.offset = cursor.offset
      · simp only [if_pos empty, Set.union_empty]
        refine ⟨first, ⟨passed, passes⟩, ?_⟩
        rintro _ ⟨⟩
      · simp only [if_neg empty] at settled ⊢
        -- the round has consumed a character, so the bound was not used up
        have shorter := (passes.rest_lt empty).1
        cases bound with
        | nil =>
            rw [List.length_nil] at bounded
            omega
        | cons _ bound =>
            rw [List.length_cons] at bounded
            obtain ⟨tells, ⟨more, further⟩, missed⟩ :=
              rounds_tell within most bound (count + 1) (output :: outputs) next between (by omega)
                (seen.trans visible) settled
            exact ⟨first.trans passes tells, ⟨_, passes.trans further⟩,
              fun failure ended => .inr (missed failure ended)⟩

/-- What a node is missing is told by the progress behind it. -/
theorem node_tells {node : Node size} (within : node ∈ rules.nodes) (fine : progress.exceeded = none)
    (visible : progress.lookahead = 0)
    (settled : (rules.run (levels + 1) node cursor progress).2.exceeded = none) :
    Tells (rules.misses (levels + 1) (.node node) cursor progress) cursor progress
      (rules.run (levels + 1) node cursor progress).2 := by
  -- what is inside notes first; the node itself then adds one failure at most
  suffices closed : ∃ after,
      Tells (rules.missesInside levels node cursor progress) cursor progress after ∧
        after.lookahead = 0 ∧
          Closes (rules.missesInside levels node cursor progress) cursor after
            ((rules.run levels).node rules node cursor progress) by
    obtain ⟨after, tells, seen, closes⟩ := closed
    rw [misses_node fine, run_node fine]
    exact closes.tells seen tells
  rw [run_node fine] at settled
  have here : cursor.Passes [] cursor := .refl cursor
  have leaf (isLeaf : node.IsLeaf) :
      Closes (rules.missesInside levels node cursor progress) cursor progress
        ((rules.run levels).node rules node cursor progress) := by
    rcases Runner.leaf_ends isLeaf rules cursor with ⟨next, matched⟩ | ⟨expected, failed⟩
    · rw [matched]
      exact .matched
    · rw [failed]
      exact .missed expected here
  cases node with
  | literal | char | charClass | any =>
      exact ⟨progress, .refl cursor progress, visible, leaf trivial⟩
  | sequence parts =>
      rw [Runner.sequence_notes Progress.noting_exceeded] at settled
      have inside : ∀ part ∈ parts, part ∈ rules.nodes := fun part member =>
        mem_nodes_of_inner within (Node.mem_nodes_sequence member)
      obtain ⟨tells, missed⟩ := parts_tell below accepted inside visible settled
      have seen := (Runner.parts_lasts lasting_blind (rules.run_lasts lasting_blind levels) parts
        cursor progress).1
      refine ⟨_, tells, seen.trans visible, ?_⟩
      simp only [Runner.node]
      rcases ran : (rules.run levels).parts parts cursor progress with ⟨ended, after⟩
      rw [ran] at missed
      cases ended with
      | error failure => exact .passedOn (missed failure rfl)
      | ok yielded =>
          simp only
          split
          · exact .matched
          · exact .missed _ here
  | choice branches =>
      have inside : ∀ branch ∈ branches, branch ∈ rules.nodes := fun branch member =>
        mem_nodes_of_inner within (Node.mem_nodes_choice member)
      have nothing : ∀ failure, none = some failure → failure ∈ (∅ : Set Failure) := by
        rintro _ ⟨⟩
      have told := @branches_tell _ rules levels cursor progress below branches inside none ∅ nothing
        visible settled
      rwa [Set.empty_union] at told
  | repetition inner least most structured =>
      rw [Runner.repetition_notes Progress.noting_exceeded] at settled
      obtain ⟨tells, ⟨passed, passes⟩, missed⟩ :=
        rounds_tell below accepted (mem_nodes_of_inner within Node.mem_nodes_repetition) most
          cursor.rest 0 [] cursor progress (Nat.le_refl _) visible settled
      have seen := (Runner.rounds_lasts lasting_blind (rules.run_lasts lasting_blind levels) inner
        most cursor.rest 0 [] cursor progress).1
      refine ⟨_, tells, seen.trans visible, ?_⟩
      simp only [Runner.node]
      rcases ran : (rules.run levels).rounds inner most cursor.rest 0 [] cursor progress
        with ⟨rounds, after⟩
      rw [ran] at passes missed
      simp only
      split
      · split
        next failure ended => exact .passedOn (missed failure ended)
        · exact .missed _ passes
      · exact .matched
  | absent inner =>
      have blind := rules.run_lasts lasting_blind levels inner cursor progress.enterLookahead
      simp only [Runner.node]
      rcases ran : rules.run levels inner cursor progress.enterLookahead with ⟨outcome, after⟩
      rw [ran] at blind
      have same := blind.2 (Nat.succ_ne_zero _)
      have seen := (lasting_blind.lookahead blind).1.trans visible
      refine ⟨after.leaveLookahead, .of_same cursor same.1 same.2, seen, ?_⟩
      cases outcome
      · exact .missed _ here
      · exact .matched
  | capture name inner =>
      rw [Runner.capture_progress] at settled
      have inside := mem_nodes_of_inner within Node.mem_nodes_capture
      have tells := below inside cursor progress visible settled
      have seen := lookahead_run rules levels inner cursor progress
      refine ⟨_, tells, seen.trans visible, ?_⟩
      simp only [Runner.node]
      rcases ran : rules.run levels inner cursor progress with ⟨_ | failure, after⟩
      · exact .matched
      · exact .passedOn (.here (by rw [ran]))
  | rule id =>
      have tells := below (rules.body_mem_nodes id) cursor progress visible settled
      have seen := lookahead_run rules levels (rules.get id).body cursor progress
      refine ⟨_, tells, seen.trans visible, ?_⟩
      simp only [Runner.node]
      rcases ran : rules.run levels (rules.get id).body cursor progress with ⟨_ | failure, after⟩
      · exact .matched
      · exact .passedOn (.here (by rw [ran]))

end

/-- All that a run misses outside lookaheads is told by the progress it leaves. -/
theorem Accepted.run_tells {facts : FactTable size} (accepted : rules.Accepted facts)
    {node : Node size} (within : node ∈ rules.nodes) (cursor : Cursor) (progress : Progress)
    (visible : progress.lookahead = 0)
    (settled : (rules.run levels node cursor progress).2.exceeded = none) :
    Tells (rules.misses levels (.node node) cursor progress) cursor progress
      (rules.run levels node cursor progress).2 := by
  induction levels generalizing node cursor progress with
  | zero => exact (Option.some_ne_none _ settled).elim
  | succ levels ih =>
      have fine := rules.run_keeps (levels + 1) node cursor progress settled
      exact node_tells (fun within cursor progress => ih within cursor progress) accepted within fine
        visible settled

end RuleTable

end PegText
