import PegText.Proofs.Parse.Runs

/-!
Grammars whose rules do not call each other in circles. Each rule has a height there, and no text
nests a parse deeper than the node that it starts with is high.
-/

namespace PegText

variable {size : Nat} {rules : RuleTable size}

namespace Node

mutual

def height (heights : Vector Nat size) : Node size → Nat
  | literal _ | char _ | charClass _ _ | any => 1
  | sequence parts | choice parts => heightOfAll heights parts + 1
  | repetition inner _ _ _ | absent inner | capture _ inner => inner.height heights + 1
  | rule id => heights.get id + 1

def heightOfAll (heights : Vector Nat size) : List (Node size) → Nat
  | [] => 0
  | node :: rest => max (node.height heights) (heightOfAll heights rest)

end

theorem height_pos (heights : Vector Nat size) (node : Node size) : 0 < node.height heights := by
  cases node <;> exact Nat.succ_pos _

theorem height_le_heightOfAll (heights : Vector Nat size) {node : Node size}
    {all : List (Node size)} (member : node ∈ all) :
    node.height heights ≤ heightOfAll heights all := by
  induction all with
  | nil => cases member
  | cons first rest ih =>
      rw [heightOfAll]
      rcases List.mem_cons.mp member with rfl | later
      · exact Nat.le_max_left _ _
      · exact (ih later).trans (Nat.le_max_right _ _)

end Node

namespace Runner

def Deep (heights : Vector Nat size) (levels : Nat) (run : Runner size) : Prop :=
  ∀ node cursor progress, node.height heights ≤ levels → progress.exceeded = none →
    (run node cursor progress).2.exceeded = none

variable {run : Runner size} {heights : Vector Nat size} {levels : Nat}

theorem parts_deep (deep : run.Deep heights levels) {parts : List (Node size)}
    (room : Node.heightOfAll heights parts ≤ levels) (cursor : Cursor) (progress : Progress)
    (fine : progress.exceeded = none) : (run.parts parts cursor progress).2.exceeded = none := by
  induction parts generalizing cursor progress with
  | nil => exact fine
  | cons part rest ih =>
      rw [Node.heightOfAll] at room
      have first := deep part cursor progress (by omega) fine
      rcases ran : run part cursor progress with ⟨outcome, between⟩
      rw [ran] at first
      cases outcome with
      | failed failure =>
          rw [Runner.parts, ran]
          exact first
      | matched output next =>
          rw [parts_progress ran]
          exact ih (by omega) next between first

theorem branches_deep (deep : run.Deep heights levels) {branches : List (Node size)}
    (room : Node.heightOfAll heights branches ≤ levels) (cursor : Cursor)
    (deepest : Option Failure) (progress : Progress) (fine : progress.exceeded = none) :
    (run.branches cursor branches deepest progress).2.exceeded = none := by
  refine branches_settled (fun branch member progress => ?_) deepest progress fine
  exact deep branch cursor progress ((Node.height_le_heightOfAll heights member).trans room)

theorem rounds_deep (deep : run.Deep heights levels) {inner : Node size}
    (room : inner.height heights ≤ levels) (most : Option Nat) (bound : List Char) (count : Nat)
    (outputs : List Output) (cursor : Cursor) (progress : Progress)
    (fine : progress.exceeded = none) :
    (run.rounds inner most bound count outputs cursor progress).2.exceeded = none := by
  apply rounds_settled
  · intro cursor progress
    exact deep inner cursor progress room
  · exact fine

theorem node_deep (bounded : ∀ id, (rules.get id).body.height heights ≤ heights.get id)
    (deep : run.Deep heights levels) (node : Node size) (cursor : Cursor) (progress : Progress)
    (room : node.height heights ≤ levels + 1) (fine : progress.exceeded = none) :
    (run.node rules node cursor progress).2.exceeded = none := by
  have leaf (isLeaf : node.IsLeaf) : (run.node rules node cursor progress).2.exceeded = none := by
    rw [leaf_notes Progress.noting_exceeded rules isLeaf, fine]
  cases node with
  | literal | char | charClass | any => exact leaf trivial
  | sequence parts =>
      rw [sequence_notes Progress.noting_exceeded]
      exact parts_deep deep (Nat.le_of_succ_le_succ room) cursor progress fine
  | choice branches =>
      exact branches_deep deep (Nat.le_of_succ_le_succ room) cursor none progress fine
  | repetition inner least most structured =>
      rw [repetition_notes Progress.noting_exceeded]
      exact rounds_deep deep (Nat.le_of_succ_le_succ room) most cursor.rest 0 [] cursor progress fine
  | absent inner =>
      rw [absent_notes Progress.noting_exceeded]
      exact deep inner cursor progress.enterLookahead (Nat.le_of_succ_le_succ room) fine
  | capture name inner =>
      rw [capture_progress]
      exact deep inner cursor progress (Nat.le_of_succ_le_succ room) fine
  | rule id =>
      have below := bounded id
      rw [Node.height] at room
      exact deep _ cursor progress (by omega) fine

end Runner

/-- Where every rule is as high as its body, no parse goes deeper than its first node is high. -/
theorem RuleTable.run_deep {heights : Vector Nat size}
    (bounded : ∀ id, (rules.get id).body.height heights ≤ heights.get id) (levels : Nat) :
    Runner.Deep heights levels (rules.run levels) := by
  induction levels with
  | zero =>
      intro node _ _ room
      have positive := node.height_pos heights
      omega
  | succ levels ih =>
      intro node cursor progress room fine
      rw [RuleTable.run_succ, fine]
      exact Runner.node_deep bounded ih node cursor progress room fine

end PegText
