import Mathlib.Data.List.Forall2
import PegText.Proofs.Parse.Progress

/-!
Two runs side by side whose captures need not be the same. They pass the same text, note the same
failures and fail in the same way, wherever the first of them stays within its limit. A sequence
opened into the sequence around it keeps to that if it can put its captures together; a choice
opened into the choice around it leaves even the captures as they are.
-/

namespace PegText

variable {size : Nat}

inductive Agrees {ε α β : Type} (agree : α → β → Prop) : Except ε α → Except ε β → Prop
  | ok {value value'} : agree value value' → Agrees agree (.ok value) (.ok value')
  | error {failure} : Agrees agree (.error failure) (.error failure)

abbrev SameIf {ε α : Type} (exact : Prop) : Except ε α → Except ε α → Prop :=
  Agrees fun value value' => exact → value' = value

namespace SameIf

variable {ε α : Type} {exact : Prop} {first second third : Except ε α}

theorem refl : ∀ result : Except ε α, SameIf exact result result
  | .ok _ => .ok fun _ => rfl
  | .error _ => .error

theorem trans (one : SameIf exact first second) (two : SameIf exact second third) :
    SameIf exact first third := by
  cases one with
  | error => exact two
  | ok same =>
      cases two with
      | ok same' => exact .ok fun due => (same' due).trans (same due)

theorem iff (same : SameIf exact first second) :
    ((∃ value, first = .ok value) ↔ ∃ value, second = .ok value) ∧
      (∀ failure, first = .error failure ↔ second = .error failure) ∧
      (exact → second = first) := by
  cases same with
  | error => simp
  | ok same => simpa using same

end SameIf

inductive Outcome.Agrees (exact : Prop) : Outcome → Outcome → Prop
  | matched {output output' next} : (exact → output' = output) →
      Agrees exact (.matched output next) (.matched output' next)
  | failed {failure} : Agrees exact (.failed failure) (.failed failure)

theorem Outcome.Agrees.refl {exact : Prop} : ∀ outcome, Outcome.Agrees exact outcome outcome
  | .matched _ _ => .matched fun _ => rfl
  | .failed _ => .failed

def Progress.Tracks {α β : Type} (agree : α → β → Prop) (first : α × Progress)
    (second : β × Progress) : Prop :=
  first.2.exceeded = none → agree first.1 second.1 ∧ second.2 = first.2

theorem Progress.Tracks.exists_answers {α β : Type} {agree : α → β → Prop} {first : α × Progress}
    {second : β × Progress} (tracks : Progress.Tracks agree first second)
    (settled : first.2.exceeded = none) :
    ∃ answer answer' after, first = (answer, after) ∧ second = (answer', after) ∧
      agree answer answer' := by
  obtain ⟨answer, after⟩ := first
  obtain ⟨answer', after'⟩ := second
  obtain ⟨agrees, same⟩ := tracks settled
  cases same
  exact ⟨answer, answer', after, rfl, rfl, agrees⟩

namespace Runner

theorem parts_append (run : Runner size) (front back : List (Node size)) (cursor : Cursor)
    (progress : Progress) :
    run.parts (front ++ back) cursor progress =
      match run.parts front cursor progress with
      | (.error failure, between) => (.error failure, between)
      | (.ok (outputs, middle), between) =>
          match run.parts back middle between with
          | (.error failure, after) => (.error failure, after)
          | (.ok (more, stop), after) => (.ok (outputs ++ more, stop), after) := by
  induction front generalizing cursor progress with
  | nil =>
      simp only [List.nil_append, Runner.parts]
      rcases run.parts back cursor progress with ⟨_ | _, after⟩ <;> rfl
  | cons part rest ih =>
      rw [List.cons_append, Runner.parts, Runner.parts]
      rcases run part cursor progress with ⟨outcome, between⟩
      cases outcome with
      | failed failure => rfl
      | matched output next =>
          simp only [ih]
          rcases run.parts rest next between with ⟨_ | ⟨outputs, middle⟩, after⟩
          · rfl
          · simp only
            rcases run.parts back middle after with ⟨_ | _, later⟩ <;> rfl

theorem parts_append_progress {run : Runner size} {front : List (Node size)}
    (back : List (Node size)) {cursor middle : Cursor} {progress between : Progress}
    {outputs : List Output}
    (ran : run.parts front cursor progress = (.ok (outputs, middle), between)) :
    (run.parts (front ++ back) cursor progress).2 = (run.parts back middle between).2 := by
  simp only [parts_append, ran]
  rcases run.parts back middle between with ⟨_ | _, after⟩ <;> rfl

theorem branches_append (run : Runner size) (cursor : Cursor) {front : List (Node size)}
    (filled : front ≠ []) (back : List (Node size)) (deepest : Option Failure)
    (progress : Progress) :
    run.branches cursor (front ++ back) deepest progress =
      match run.branches cursor front deepest progress with
      | (.matched output next, after) => (.matched output next, after)
      | (.failed failure, after) => run.branches cursor back (some failure) after := by
  induction front generalizing deepest progress with
  | nil => exact (filled rfl).elim
  | cons branch rest ih =>
      rw [List.cons_append, Runner.branches, Runner.branches]
      rcases run branch cursor progress with ⟨outcome, between⟩
      cases outcome with
      | matched output next => rfl
      | failed failure =>
          cases rest with
          | nil => rfl
          | cons second rest => exact ih (List.cons_ne_nil second rest) _ between

end Runner

theorem Failure.deeper_assoc (first : Option Failure) (second third : Failure) :
    Failure.deeper (some (Failure.deeper first second)) third =
      Failure.deeper first (Failure.deeper (some second) third) := by
  cases first with
  | none => rfl
  | some first =>
      simp only [Failure.deeper]
      split <;> split <;> grind

namespace Runner

/-- Failures from before the branches come in behind those of the branches only. -/
theorem branches_some (run : Runner size) (cursor : Cursor) (branches : List (Node size))
    (deepest : Option Failure) (failure : Failure) (progress : Progress) :
    run.branches cursor branches (some (.deeper deepest failure)) progress =
      match run.branches cursor branches (some failure) progress with
      | (.matched output next, after) => (.matched output next, after)
      | (.failed failure, after) => (.failed (.deeper deepest failure), after) := by
  induction branches generalizing failure progress with
  | nil => rfl
  | cons branch rest ih =>
      rw [Runner.branches, Runner.branches]
      rcases run branch cursor progress with ⟨outcome, between⟩
      cases outcome with
      | matched output next => rfl
      | failed later =>
          simp only [Failure.deeper_assoc]
          exact ih _ between

theorem branches_of_ne_nil (run : Runner size) (cursor : Cursor) {branches : List (Node size)}
    (filled : branches ≠ []) (deepest : Option Failure) (progress : Progress) :
    run.branches cursor branches deepest progress =
      match run.branches cursor branches none progress with
      | (.matched output next, after) => (.matched output next, after)
      | (.failed failure, after) => (.failed (.deeper deepest failure), after) := by
  cases branches with
  | nil => exact (filled rfl).elim
  | cons branch rest =>
      rw [Runner.branches, Runner.branches]
      rcases run branch cursor progress with ⟨outcome, between⟩
      cases outcome with
      | matched output next => rfl
      | failed failure => exact run.branches_some cursor rest deepest failure between

variable {exact : Prop} {run run' : Runner size}

def NodeTracks (exact : Prop) (run run' : Runner size) (node node' : Node size) : Prop :=
  ∀ cursor progress,
    Progress.Tracks (Outcome.Agrees exact) (run node cursor progress) (run' node' cursor progress)

def PartsTrack (exact : Prop) (run run' : Runner size) (parts parts' : List (Node size)) : Prop :=
  ∀ cursor progress,
    Progress.Tracks
      (Agrees fun yielded yielded' => yielded'.2 = yielded.2 ∧ (exact → yielded' = yielded))
      (run.parts parts cursor progress) (run'.parts parts' cursor progress)

def BranchesTrack (exact : Prop) (run run' : Runner size) (branches branches' : List (Node size)) :
    Prop :=
  ∀ cursor deepest progress,
    Progress.Tracks (Outcome.Agrees exact) (run.branches cursor branches deepest progress)
      (run'.branches cursor branches' deepest progress)

theorem parts_singleton_progress (part : Node size) (cursor : Cursor) (progress : Progress) :
    (run.parts [part] cursor progress).2 = (run part cursor progress).2 := by
  rw [Runner.parts]
  rcases run part cursor progress with ⟨_ | _, after⟩ <;> rfl

theorem branches_singleton_progress (branch : Node size) (cursor : Cursor)
    (deepest : Option Failure) (progress : Progress) :
    (run.branches cursor [branch] deepest progress).2 = (run branch cursor progress).2 := by
  rw [Runner.branches]
  rcases run branch cursor progress with ⟨_ | _, after⟩ <;> rfl

theorem PartsTrack.nil : PartsTrack exact run run' [] [] :=
  fun _ _ _ => ⟨.ok ⟨rfl, fun _ => rfl⟩, rfl⟩

theorem PartsTrack.single {part part' : Node size} (tracks : NodeTracks exact run run' part part') :
    PartsTrack exact run run' [part] [part'] := by
  intro cursor progress settled
  rw [parts_singleton_progress] at settled
  obtain ⟨outcome, outcome', after, ran, ran', agree⟩ :=
    (tracks cursor progress).exists_answers settled
  simp only [Runner.parts, ran, ran']
  cases agree with
  | failed => exact ⟨.error, rfl⟩
  | matched same => exact ⟨.ok ⟨rfl, fun due => by rw [same due]⟩, rfl⟩

theorem BranchesTrack.nil : BranchesTrack exact run run' [] [] := by
  intro cursor deepest progress _
  cases deepest <;> exact ⟨.failed, rfl⟩

theorem BranchesTrack.single {branch branch' : Node size}
    (tracks : NodeTracks exact run run' branch branch') :
    BranchesTrack exact run run' [branch] [branch'] := by
  intro cursor deepest progress settled
  rw [branches_singleton_progress] at settled
  obtain ⟨outcome, outcome', after, ran, ran', agree⟩ :=
    (tracks cursor progress).exists_answers settled
  simp only [Runner.branches, ran, ran']
  cases agree with
  | failed => exact ⟨.failed, rfl⟩
  | matched same => exact ⟨.matched same, rfl⟩

section

variable (keeps : ∀ node cursor progress,
  (run node cursor progress).2.exceeded = none → progress.exceeded = none)

include keeps

theorem front_parts_last {front back : List (Node size)} {cursor : Cursor} {progress : Progress}
    (settled : (run.parts (front ++ back) cursor progress).2.exceeded = none) :
    (run.parts front cursor progress).2.exceeded = none := by
  rcases ran : run.parts front cursor progress with ⟨_ | ⟨outputs, middle⟩, between⟩
  · rwa [parts_append, ran] at settled
  · rw [parts_append_progress back ran] at settled
    exact parts_lasts Progress.lasting_exceeded keeps back middle between settled

theorem PartsTrack.append {front front' back back' : List (Node size)}
    (inFront : PartsTrack exact run run' front front')
    (inBack : PartsTrack exact run run' back back') :
    PartsTrack exact run run' (front ++ back) (front' ++ back') := by
  intro cursor progress settled
  obtain ⟨ended, ended', between, ran, ran', agree⟩ :=
    (inFront cursor progress).exists_answers (front_parts_last keeps settled)
  rw [parts_append, parts_append, ran, ran']
  cases agree with
  | error => exact ⟨.error, rfl⟩
  | @ok yielded yielded' same =>
      obtain ⟨outputs, _⟩ := yielded
      obtain ⟨outputs', middle⟩ := yielded'
      obtain ⟨rfl, same⟩ := same
      rw [parts_append_progress back ran] at settled
      obtain ⟨ended, ended', after, later, later', agree⟩ :=
        (inBack middle between).exists_answers settled
      simp only [later, later']
      cases agree with
      | error => exact ⟨.error, rfl⟩
      | ok sameBack =>
          refine ⟨.ok ⟨sameBack.1, fun due => ?_⟩, rfl⟩
          rw [sameBack.2 due, (Prod.mk.inj (same due)).1]

theorem PartsTrack.of_forall₂ {parts parts' : List (Node size)}
    (each : List.Forall₂ (NodeTracks exact run run') parts parts') :
    PartsTrack exact run run' parts parts' := by
  induction each with
  | nil => exact .nil
  | cons here _ ih => exact append keeps (.single here) ih

theorem front_branches_last {cursor : Cursor} {front : List (Node size)} (filled : front ≠ [])
    {back : List (Node size)} {deepest : Option Failure} {progress : Progress}
    (settled : (run.branches cursor (front ++ back) deepest progress).2.exceeded = none) :
    (run.branches cursor front deepest progress).2.exceeded = none := by
  rw [run.branches_append cursor filled] at settled
  rcases ran : run.branches cursor front deepest progress with ⟨_ | failure, between⟩
  · rwa [ran] at settled
  · rw [ran] at settled
    exact branches_lasts Progress.lasting_exceeded keeps cursor back (some failure) between settled

theorem BranchesTrack.append {front front' back back' : List (Node size)} (filled : front ≠ [])
    (filled' : front' ≠ []) (inFront : BranchesTrack exact run run' front front')
    (inBack : BranchesTrack exact run run' back back') :
    BranchesTrack exact run run' (front ++ back) (front' ++ back') := by
  intro cursor deepest progress settled
  obtain ⟨outcome, outcome', between, ran, ran', agree⟩ :=
    (inFront cursor deepest progress).exists_answers (front_branches_last keeps filled settled)
  rw [run.branches_append cursor filled, ran] at settled
  rw [run.branches_append cursor filled, run'.branches_append cursor filled', ran, ran']
  cases agree with
  | matched same => exact ⟨.matched same, rfl⟩
  | @failed failure => exact inBack cursor (some failure) between settled

theorem BranchesTrack.prepend {front front' back back' : List (Node size)}
    (each : List.Forall₂ (NodeTracks exact run run') front front')
    (behind : BranchesTrack exact run run' back back') :
    BranchesTrack exact run run' (front ++ back) (front' ++ back') := by
  induction each with
  | nil => exact behind
  | cons here _ ih =>
      have all := append keeps (List.cons_ne_nil _ []) (List.cons_ne_nil _ []) (.single here) ih
      exact all

theorem BranchesTrack.of_forall₂ {branches branches' : List (Node size)}
    (each : List.Forall₂ (NodeTracks exact run run') branches branches') :
    BranchesTrack exact run run' branches branches' := by
  have tracks := prepend keeps each .nil
  rwa [List.append_nil, List.append_nil] at tracks

end

def Yields (run : Runner size) (parts : List (Node size)) : Prop :=
  ∀ {cursor progress outputs stop after},
    run.parts parts cursor progress = (.ok (outputs, stop), after) →
      ∃ output, Output.ofSequence cursor stop outputs = .ok output

section

variable {rules : RuleTable size} {levels : Nat} {inner : List (Node size)}

theorem PartsTrack.opened
    (inside : ∀ fewer < levels, PartsTrack exact (rules.run fewer) run' inner inner)
    (yields : ∀ fewer, (rules.run fewer).Yields inner) (loose : ¬exact) :
    PartsTrack exact (rules.run levels) run' [.sequence inner] inner := by
  intro cursor progress settled
  rw [parts_singleton_progress] at settled
  cases levels with
  | zero => cases settled
  | succ levels =>
      have fine : progress.exceeded = none :=
        rules.run_lasts Progress.lasting_exceeded _ _ cursor progress settled
      rw [RuleTable.run_succ, fine] at settled
      have settledInside :=
        sequence_notes Progress.lasting_exceeded.noting rules inner cursor progress settled
      obtain ⟨ended, ended', after, ran, ran', agree⟩ :=
        (inside levels (Nat.lt_succ_self levels) cursor progress).exists_answers settledInside
      simp only [Runner.parts, RuleTable.run_succ, fine, Runner.node, ran, ran']
      cases agree with
      | error => exact ⟨.error, rfl⟩
      | ok same =>
          obtain ⟨output, merged⟩ := yields levels ran
          simp only [merged]
          exact ⟨.ok ⟨same.1, fun due => (loose due).elim⟩, rfl⟩

theorem BranchesTrack.opened (filled : inner ≠ [])
    (inside : ∀ fewer < levels, BranchesTrack exact (rules.run fewer) run' inner inner) :
    BranchesTrack exact (rules.run levels) run' [.choice inner] inner := by
  intro cursor deepest progress settled
  rw [branches_singleton_progress] at settled
  cases levels with
  | zero => cases settled
  | succ levels =>
      have fine : progress.exceeded = none :=
        rules.run_lasts Progress.lasting_exceeded _ _ cursor progress settled
      have same : (rules.run (levels + 1)).branches cursor [.choice inner] deepest progress =
          (rules.run levels).branches cursor inner deepest progress := by
        rw [branches_of_ne_nil _ cursor filled deepest, Runner.branches, RuleTable.run_succ, fine]
        rfl
      rw [← branches_singleton_progress, same] at settled
      rw [same]
      exact inside levels (Nat.lt_succ_self levels) cursor deepest progress settled

end

abbrev OutputsAgree (exact : Prop) : List Output → List Output → Prop :=
  List.Forall₂ fun output output' => exact → output' = output

theorem OutputsAgree.eq {outputs outputs' : List Output}
    (agree : OutputsAgree exact outputs outputs') (due : exact) : outputs' = outputs := by
  have each : List.Forall₂ (· = ·) outputs outputs' := agree.imp fun _ _ same => (same due).symm
  rw [List.forall₂_eq_eq_eq] at each
  exact each.symm

structure Rounds.Agrees (exact : Prop) (rounds rounds' : Rounds) : Prop where
  outputs : OutputsAgree exact rounds.outputs rounds'.outputs
  stop : rounds'.stop = rounds.stop
  failure : rounds'.failure = rounds.failure

theorem rounds_track
    (keeps : ∀ node cursor progress,
      (run node cursor progress).2.exceeded = none → progress.exceeded = none)
    {inner inner' : Node size} (tracks : NodeTracks exact run run' inner inner')
    (most : Option Nat) (bound : List Char) (count : Nat) {outputs outputs' : List Output}
    (agree : OutputsAgree exact outputs outputs') (cursor : Cursor) (progress : Progress) :
    Progress.Tracks (Rounds.Agrees exact)
      (run.rounds inner most bound count outputs cursor progress)
      (run'.rounds inner' most bound count outputs' cursor progress) := by
  have first {cursor : Cursor} {progress between : Progress} {outcome : Outcome}
      (ran : run inner cursor progress = (outcome, between)) (settled : between.exceeded = none) :
      ∃ outcome', run' inner' cursor progress = (outcome', between) ∧
        outcome.Agrees exact outcome' := by
    have tracked := tracks cursor progress
    rw [ran] at tracked
    obtain ⟨_, outcome', _, same, ran', agrees⟩ := tracked.exists_answers settled
    cases same
    exact ⟨outcome', ran', agrees⟩
  fun_induction Runner.rounds run inner most bound count outputs cursor progress
    generalizing outputs' with
  | case1 _ _ _ _ _ full =>
      rw [rounds_full full]
      exact fun _ => ⟨⟨List.rel_reverse agree, rfl, rfl⟩, rfl⟩
  | case2 _ _ _ _ _ notFull _ _ ran =>
      intro settled
      obtain ⟨_, ran', ⟨⟩⟩ := first ran settled
      rw [rounds_failed notFull ran']
      exact ⟨⟨List.rel_reverse agree, rfl, rfl⟩, rfl⟩
  | case3 _ _ _ _ _ notFull _ _ _ ran still =>
      intro settled
      obtain ⟨_, ran', same⟩ := first ran settled
      cases same with
      | matched same =>
          rw [rounds_last notFull ran' (.inl still)]
          exact ⟨⟨List.rel_reverse (.cons same agree), rfl, rfl⟩, rfl⟩
  | case4 _ _ _ _ notFull _ _ _ ran =>
      intro settled
      obtain ⟨_, ran', same⟩ := first ran settled
      cases same with
      | matched same =>
          rw [rounds_last notFull ran' (.inr rfl)]
          exact ⟨⟨List.rel_reverse (.cons same agree), rfl, rfl⟩, rfl⟩
  | case5 count outputs _ _ notFull output next between ran further c bound ih =>
      intro settled
      have settledFirst := rounds_lasts Progress.lasting_exceeded keeps inner most bound (count + 1)
        (output :: outputs) next between settled
      obtain ⟨_, ran', same⟩ := first ran settledFirst
      cases same with
      | matched same =>
          rw [rounds_further notFull ran' further]
          exact ih (.cons same agree) settled

section

variable {rules rules' : RuleTable size}

theorem sequence_tracks {parts parts' : List (Node size)}
    (tracks : PartsTrack exact run run' parts parts') (yields : run.Yields parts)
    (yields' : run'.Yields parts') :
    NodeTracks exact (run.node rules) (run'.node rules') (.sequence parts) (.sequence parts') := by
  intro cursor progress settled
  have settledInside :=
    sequence_notes Progress.lasting_exceeded.noting rules parts cursor progress settled
  obtain ⟨ended, ended', after, ran, ran', agree⟩ :=
    (tracks cursor progress).exists_answers settledInside
  simp only [Runner.node, ran, ran']
  cases agree with
  | error => exact ⟨.failed, rfl⟩
  | @ok yielded yielded' same =>
      obtain ⟨outputs, _⟩ := yielded
      obtain ⟨outputs', stop⟩ := yielded'
      obtain ⟨rfl, same⟩ := same
      obtain ⟨output, merged⟩ := yields ran
      obtain ⟨output', merged'⟩ := yields' ran'
      simp only [merged, merged']
      refine ⟨.matched fun due => ?_, trivial⟩
      cases same due
      exact Except.ok.inj (merged'.symm.trans merged)

theorem choice_tracks {branches branches' : List (Node size)}
    (tracks : BranchesTrack exact run run' branches branches') :
    NodeTracks exact (run.node rules) (run'.node rules') (.choice branches) (.choice branches') :=
  fun cursor progress settled => tracks cursor none progress settled

variable {inner inner' : Node size} (tracks : NodeTracks exact run run' inner inner')

include tracks

theorem capture_tracks (name : String) :
    NodeTracks exact (run.node rules) (run'.node rules') (.capture name inner)
      (.capture name inner') := by
  intro cursor progress settled
  rw [capture_progress] at settled
  obtain ⟨outcome, outcome', after, ran, ran', agree⟩ :=
    (tracks cursor progress).exists_answers settled
  simp only [Runner.node, ran, ran']
  cases agree with
  | failed => exact ⟨.failed, rfl⟩
  | matched same => exact ⟨.matched fun due => by rw [same due], rfl⟩

variable (described : inner'.describe rules' = inner.describe rules)

include described

theorem absent_tracks :
    NodeTracks exact (run.node rules) (run'.node rules') (.absent inner) (.absent inner') := by
  intro cursor progress settled
  have settledInside :=
    absent_notes Progress.lasting_exceeded.noting rules inner cursor progress settled
  obtain ⟨outcome, outcome', after, ran, ran', agree⟩ :=
    (tracks cursor progress.enterLookahead).exists_answers settledInside
  simp only [Runner.node, ran, ran', described]
  cases agree with
  | failed => exact ⟨.matched fun _ => rfl, rfl⟩
  | matched => exact ⟨.failed, rfl⟩

theorem repetition_tracks
    (keeps : ∀ node cursor progress,
      (run node cursor progress).2.exceeded = none → progress.exceeded = none)
    (least : Nat) (most : Option Nat) (structured : Bool) :
    NodeTracks exact (run.node rules) (run'.node rules') (.repetition inner least most structured)
      (.repetition inner' least most structured) := by
  intro cursor progress settled
  have settledInside := repetition_notes Progress.lasting_exceeded.noting rules inner least most
    structured cursor progress settled
  obtain ⟨rounds, rounds', after, ran, ran', agree⟩ :=
    (rounds_track keeps tracks most cursor.rest 0 .nil cursor progress).exists_answers
      settledInside
  obtain ⟨outputs, stop, failure⟩ := rounds
  obtain ⟨outputs', stop', failure'⟩ := rounds'
  obtain ⟨agreeOutputs, rfl, rfl⟩ := agree
  simp only [Runner.node, ran, ran', described, ← agreeOutputs.length_eq]
  split
  · split <;> exact ⟨.failed, rfl⟩
  · exact ⟨.matched fun due => congrArg _ (agreeOutputs.eq due), rfl⟩

end

end Runner

end PegText
