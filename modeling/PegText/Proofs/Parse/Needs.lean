import PegText.Proofs.Parse.Calls
import PegText.Proofs.Parse.Depth
import PegText.Proofs.Parse.Semantics

/-!
How many levels a run needs. A goal needs a number of levels at a place if its runs stay within
their limit there exactly from that number on. What a node needs is put together from what is inside
it: one level more, for branches and rounds that fail as well.
-/

namespace PegText

variable {size : Nat}

inductive Goal.Leaves (run : Runner size) : Goal size → Cursor → Progress → Progress → Prop
  | node {node cursor progress} :
      Leaves run (.node node) cursor progress (run node cursor progress).2
  | parts {parts cursor progress} :
      Leaves run (.parts parts) cursor progress (run.parts parts cursor progress).2
  | branches {branches cursor progress} (deepest : Option Failure) :
      Leaves run (.branches branches) cursor progress
        (run.branches cursor branches deepest progress).2
  | rounds {inner most count cursor progress bound outputs} :
      Leaves run (.rounds inner most count) cursor progress
        (run.rounds inner most bound count outputs cursor progress).2

namespace RuleTable

def Needs (rules : RuleTable size) (goal : Goal size) (cursor : Cursor) (depth : Nat) : Prop :=
  goal.Within rules → ∀ levels progress after, progress.exceeded = none →
    goal.Leaves (rules.run levels) cursor progress after → (after.exceeded = none ↔ depth ≤ levels)

namespace Needs

variable {rules : RuleTable size} {facts : FactTable size} {cursor next : Cursor}
  {depth more : Nat}

theorem of_node {node : Node size}
    (inside : node ∈ rules.nodes → ∀ levels progress, progress.exceeded = none →
      (((rules.run levels).node rules node cursor progress).2.exceeded = none ↔ depth ≤ levels)) :
    rules.Needs (.node node) cursor (depth + 1) := by
  intro within levels progress after fine leaves
  cases leaves
  cases levels with
  | zero => simp [RuleTable.run, Progress.exceed]
  | succ levels =>
      rw [run_node fine, inside within levels progress fine]
      omega

theorem charClass (text : String) (accepts : Char → Bool) (cursor : Cursor) :
    rules.Needs (.node (.charClass text accepts)) cursor 1 := by
  apply of_node
  intro _ levels progress fine
  simp only [Runner.node, Nat.zero_le, iff_true]
  split
  · split <;> simp [Progress.fail, fine]
  · simp [Progress.fail, fine]

theorem char (c : Char) (cursor : Cursor) : rules.Needs (.node (.char c)) cursor 1 := by
  apply of_node
  intro _ levels progress fine
  simp only [Runner.node, Nat.zero_le, iff_true]
  split
  · split <;> simp [Progress.fail, fine]
  · simp [Progress.fail, fine]

theorem literal (text : String) (cursor : Cursor) :
    rules.Needs (.node (.literal text)) cursor 1 := by
  apply of_node
  intro _ levels progress fine
  simp only [Runner.node, Nat.zero_le, iff_true]
  split <;> simp [Progress.fail, fine]

theorem rule {id : Fin size} (body : rules.Needs (.node (rules.get id).body) cursor depth) :
    rules.Needs (.node (.rule id)) cursor (depth + 1) := by
  apply of_node
  intro _ levels progress fine
  exact body (rules.body_mem_nodes id) levels progress _ fine .node

theorem capture {name : String} {inner : Node size}
    (inside : rules.Needs (.node inner) cursor depth) :
    rules.Needs (.node (.capture name inner)) cursor (depth + 1) := by
  apply of_node
  intro within levels progress fine
  rw [Runner.capture_progress]
  exact inside (mem_nodes_of_inner within Node.mem_nodes_capture) levels progress _ fine .node

theorem sequence {parts : List (Node size)} (inside : rules.Needs (.parts parts) cursor depth) :
    rules.Needs (.node (.sequence parts)) cursor (depth + 1) := by
  apply of_node
  intro within levels progress fine
  rw [Runner.sequence_notes Progress.noting_exceeded]
  apply inside _ levels progress _ fine .parts
  exact fun part member => mem_nodes_of_inner within (Node.mem_nodes_sequence member)

theorem choice {branches : List (Node size)}
    (inside : rules.Needs (.branches branches) cursor depth) :
    rules.Needs (.node (.choice branches)) cursor (depth + 1) := by
  apply of_node
  intro within levels progress fine
  apply inside _ levels progress _ fine (.branches none)
  exact fun branch member => mem_nodes_of_inner within (Node.mem_nodes_choice member)

theorem repetition {inner : Node size} {least : Nat} {most : Option Nat} {structured : Bool}
    (inside : rules.Needs (.rounds inner most 0) cursor depth) :
    rules.Needs (.node (.repetition inner least most structured)) cursor (depth + 1) := by
  apply of_node
  intro within levels progress fine
  rw [Runner.repetition_notes Progress.noting_exceeded]
  exact inside (mem_nodes_of_inner within Node.mem_nodes_repetition) levels progress _ fine .rounds

theorem parts_nil : rules.Needs (.parts []) cursor 0 := by
  intro _ levels progress after fine leaves
  cases leaves
  simp [Runner.parts, fine]

/-- The first part is run in any case, and what stands behind it only if the first part matches. -/
theorem parts_cons (accepted : rules.Accepted facts) {part : Node size} {rest : List (Node size)}
    (first : rules.Needs (.node part) cursor depth)
    (behind : ∀ {output next}, rules.Matches part cursor output next →
      rules.Needs (.parts rest) next more)
    (less : rules.Fails part cursor → more ≤ depth) :
    rules.Needs (.parts (part :: rest)) cursor (max depth more) := by
  intro within levels progress after fine leaves
  cases leaves
  obtain ⟨here, later⟩ := List.forall_mem_cons.mp within
  have settles := first here levels progress _ fine .node
  by_cases enough : depth ≤ levels
  · have settled := settles.mpr enough
    rcases ran : rules.run levels part cursor progress with ⟨outcome, between⟩
    cases outcome with
    | failed failure =>
        rw [Runner.parts, ran]
        have low := less ((accepted.run_eq_failed_iff here settled).mp ⟨failure, by rw [ran]⟩)
        rw [ran] at settled
        simp only at settled
        simp only [settled, true_iff]
        omega
    | matched output next =>
        have found := (accepted.run_eq_matched_iff here settled).mp (by rw [ran])
        rw [ran] at settled
        have settlesLater := behind found later levels between _ settled .parts
        rw [Runner.parts_progress ran, settlesLater]
        omega
  · have beyond := mt settles.mp enough
    have lasts := Runner.first_part_lasts Progress.lasting_exceeded (run_keeps rules levels) part
      rest cursor progress
    simp only [mt lasts beyond, false_iff]
    omega

theorem parts_matched (accepted : rules.Accepted facts) {part : Node size}
    {rest : List (Node size)} {output : Output} (first : rules.Needs (.node part) cursor depth)
    (found : rules.Matches part cursor output next)
    (behind : rules.Needs (.parts rest) next more) :
    rules.Needs (.parts (part :: rest)) cursor (max depth more) := by
  apply parts_cons accepted first
  · intro other stop foundToo
    obtain ⟨-, rfl⟩ := found.unique foundToo
    exact behind
  · intro failed
    exact (found.not_fails failed).elim

theorem parts_failed (accepted : rules.Accepted facts) {part : Node size}
    {rest : List (Node size)} (first : rules.Needs (.node part) cursor depth)
    (failed : rules.Fails part cursor) : rules.Needs (.parts (part :: rest)) cursor depth := by
  have both := @parts_cons size rules facts cursor depth 0 accepted part rest first
    (fun found => (found.not_fails failed).elim) (fun _ => Nat.zero_le depth)
  rwa [Nat.max_zero] at both

theorem parts_last (accepted : rules.Accepted facts) {part : Node size}
    (last : rules.Needs (.node part) cursor depth) : rules.Needs (.parts [part]) cursor depth := by
  have both := parts_cons accepted last (fun _ => parts_nil) (fun _ => Nat.zero_le depth)
  rwa [Nat.max_zero] at both

theorem branches_nil : rules.Needs (.branches []) cursor 0 := by
  intro _ levels progress after fine leaves
  cases leaves with
  | branches deepest => cases deepest <;> simp [Runner.branches, Progress.fail, fine]

/-- The first branch is tried in any case, and the others only if it fails. -/
theorem branches_cons (accepted : rules.Accepted facts) {branch : Node size}
    {rest : List (Node size)} (first : rules.Needs (.node branch) cursor depth)
    (behind : rules.Needs (.branches rest) cursor more)
    (less : ∀ {output next}, rules.Matches branch cursor output next → more ≤ depth) :
    rules.Needs (.branches (branch :: rest)) cursor (max depth more) := by
  intro within levels progress after fine leaves
  cases leaves with
  | branches deepest =>
      obtain ⟨here, later⟩ := List.forall_mem_cons.mp within
      have settles := first here levels progress _ fine .node
      by_cases enough : depth ≤ levels
      · have settled := settles.mpr enough
        rw [Runner.branches]
        rcases ran : rules.run levels branch cursor progress with ⟨outcome, between⟩
        cases outcome with
        | matched output next =>
            have low := less ((accepted.run_eq_matched_iff here settled).mp (by rw [ran]))
            rw [ran] at settled
            simp only at settled
            simp only [settled, true_iff]
            omega
        | failed failure =>
            rw [ran] at settled
            simp only [behind later levels between _ settled (.branches _)]
            omega
      · have beyond := mt settles.mp enough
        have lasts := Runner.first_branch_lasts Progress.lasting_exceeded (run_keeps rules levels)
          cursor branch rest deepest progress
        simp only [mt lasts beyond, false_iff]
        omega

theorem branches_failed (accepted : rules.Accepted facts) {branch : Node size}
    {rest : List (Node size)} (first : rules.Needs (.node branch) cursor depth)
    (failed : rules.Fails branch cursor) (behind : rules.Needs (.branches rest) cursor more) :
    rules.Needs (.branches (branch :: rest)) cursor (max depth more) :=
  branches_cons accepted first behind fun found => (found.not_fails failed).elim

/-- Rounds that need the same everywhere need it together: the first one is tried in any case. -/
theorem rounds {inner : Node size} {most : Option Nat} {count : Nat}
    (notFull : most.any (· ≤ count) = false)
    (each : ∀ cursor, rules.Needs (.node inner) cursor depth) :
    rules.Needs (.rounds inner most count) cursor depth := by
  intro within levels progress after fine leaves
  cases leaves with
  | @rounds _ _ _ _ _ bound outputs =>
      constructor
      · intro settled
        have settledFirst := Runner.first_round_lasts Progress.lasting_exceeded
          (run_keeps rules levels) inner bound notFull outputs cursor progress settled
        exact (each cursor within levels progress _ fine .node).mp settledFirst
      · intro enough
        apply Runner.rounds_settled _ most bound count outputs cursor progress fine
        intro cursor progress fine
        exact (each cursor within levels progress _ fine .node).mpr enough

end Needs

end RuleTable

end PegText
