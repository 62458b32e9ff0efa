import PegText.Proofs.Grammar.Accepted
import Mathlib.Algebra.BigOperators.Fin
import Mathlib.Algebra.Order.BigOperators.Group.Finset

/-!
How many nodes can lie inside one another before anything is consumed. Of one rule these are nodes
at its left, and as no rule reaches itself at its left, every rule counts only once: all nodes of
the table together are enough.
-/

namespace PegText

variable {size : Nat}

namespace Node

mutual

def leftSize (facts : FactTable size) : Node size → Nat
  | literal _ | char _ | charClass _ _ | any | rule _ => 1
  | sequence parts => leftSizeOfSequence facts parts + 1
  | choice branches => leftSizeOfAll facts branches + 1
  | repetition inner _ _ _ => inner.leftSize facts + 1
  | absent inner => inner.leftSize facts + 1
  | capture _ inner => inner.leftSize facts + 1

def leftSizeOfSequence (facts : FactTable size) : List (Node size) → Nat
  | [] => 0
  | node :: rest =>
      node.leftSize facts + (if node.isNullable facts then leftSizeOfSequence facts rest else 0)

def leftSizeOfAll (facts : FactTable size) : List (Node size) → Nat
  | [] => 0
  | node :: rest => node.leftSize facts + leftSizeOfAll facts rest

end

variable {facts : FactTable size}

theorem leftSizeOfSequence_le {parts : List (Node size)}
    (each : ∀ part ∈ parts, part.leftSize facts ≤ part.nodes.length) :
    leftSizeOfSequence facts parts ≤ (nodesOfAll parts).length := by
  induction parts with
  | nil => exact Nat.zero_le _
  | cons part rest ih =>
      obtain ⟨here, behind⟩ := List.forall_mem_cons.mp each
      have later := ih behind
      rw [leftSizeOfSequence, nodesOfAll, List.length_append]
      split <;> omega

theorem leftSizeOfAll_le {branches : List (Node size)}
    (each : ∀ branch ∈ branches, branch.leftSize facts ≤ branch.nodes.length) :
    leftSizeOfAll facts branches ≤ (nodesOfAll branches).length := by
  induction branches with
  | nil => exact Nat.zero_le _
  | cons branch rest ih =>
      obtain ⟨here, behind⟩ := List.forall_mem_cons.mp each
      have later := ih behind
      rw [leftSizeOfAll, nodesOfAll, List.length_append]
      omega

theorem leftSize_le (facts : FactTable size) (node : Node size) :
    node.leftSize facts ≤ node.nodes.length := by
  induction node with
  | literal | char | charClass | any | rule => exact Nat.le_refl 1
  | sequence parts ih => exact Nat.succ_le_succ (leftSizeOfSequence_le ih)
  | choice branches ih => exact Nat.succ_le_succ (leftSizeOfAll_le ih)
  | repetition _ _ _ _ ih | absent _ ih | capture _ _ ih => exact Nat.succ_le_succ ih

theorem leftSize_pos (node : Node size) : 0 < node.leftSize facts := by
  cases node <;> simp [leftSize]

theorem leftSize_le_of_mem {branch : Node size} {branches : List (Node size)}
    (member : branch ∈ branches) : branch.leftSize facts ≤ leftSizeOfAll facts branches := by
  induction branches with
  | nil => cases member
  | cons first rest ih =>
      rw [leftSizeOfAll]
      rcases List.mem_cons.mp member with same | later
      · exact same ▸ Nat.le_add_right _ _
      · have bound := ih later
        omega

theorem length_nodes_le_of_mem {node : Node size} {all : List (Node size)} (member : node ∈ all) :
    node.nodes.length ≤ (nodesOfAll all).length := by
  induction all with
  | nil => cases member
  | cons first rest ih =>
      rw [nodesOfAll, List.length_append]
      rcases List.mem_cons.mp member with same | later
      · exact same ▸ Nat.le_add_right _ _
      · have bound := ih later
        omega

theorem length_nodes_le {inner node : Node size} (inside : inner ∈ node.nodes) :
    inner.nodes.length ≤ node.nodes.length := by
  induction node with
  | literal | char | charClass | any | rule =>
      rw [nodes, List.mem_singleton] at inside
      rw [inside]
  | sequence parts ih | choice parts ih =>
      rw [nodes, List.mem_cons, mem_nodesOfAll] at inside
      rcases inside with same | ⟨part, inParts, inPart⟩
      · rw [same]
      · have bound := ih part inParts inPart
        have among := length_nodes_le_of_mem inParts
        rw [nodes, List.length_cons]
        omega
  | repetition _ _ _ _ ih | absent _ ih | capture _ _ ih =>
      rw [nodes, List.mem_cons] at inside
      rcases inside with same | inInner
      · rw [same]
      · exact Nat.le_succ_of_le (ih inInner)

/-- What is inside the parts of a sequence is either at its left, or apart from all that is. -/
theorem left_or_apart_sequence {inner : Node size} {parts : List (Node size)}
    (each : ∀ part ∈ parts, inner ∈ part.nodes → inner.leftCalls facts ⊆ part.leftCalls facts ∨
      inner.leftSize facts + part.leftSize facts ≤ part.nodes.length)
    (inside : inner ∈ nodesOfAll parts) :
    inner.leftCalls facts ⊆ leftCallsOfSequence facts parts ∨
      inner.leftSize facts + leftSizeOfSequence facts parts ≤ (nodesOfAll parts).length := by
  induction parts with
  | nil => cases inside
  | cons part rest ih =>
      obtain ⟨here, behind⟩ := List.forall_mem_cons.mp each
      rw [nodesOfAll, List.mem_append] at inside
      rw [leftCallsOfSequence, leftSizeOfSequence, nodesOfAll, List.length_append]
      have partSize := part.leftSize_le facts
      have restSize : leftSizeOfSequence facts rest ≤ (nodesOfAll rest).length :=
        leftSizeOfSequence_le fun _ _ => leftSize_le _ _
      rcases inside with inPart | inRest
      · refine (here inPart).imp (List.subset_append_of_subset_left _) fun apart => ?_
        split <;> omega
      · split
        next nullable =>
          refine (ih behind inRest).imp (List.subset_append_of_subset_right _) fun apart => ?_
          omega
        next consumes =>
          obtain ⟨later, inLater, inNode⟩ := mem_nodesOfAll.mp inRest
          have innerSize := inner.leftSize_le facts
          have laterSize := length_nodes_le inNode
          have among := length_nodes_le_of_mem inLater
          exact .inr (by omega)

theorem left_or_apart_choice {inner : Node size} {branches : List (Node size)}
    (each : ∀ branch ∈ branches, inner ∈ branch.nodes →
      inner.leftCalls facts ⊆ branch.leftCalls facts ∨
        inner.leftSize facts + branch.leftSize facts ≤ branch.nodes.length)
    (inside : inner ∈ nodesOfAll branches) :
    inner.leftCalls facts ⊆ leftCallsOfAll facts branches ∨
      inner.leftSize facts + leftSizeOfAll facts branches ≤ (nodesOfAll branches).length := by
  induction branches with
  | nil => cases inside
  | cons branch rest ih =>
      obtain ⟨here, behind⟩ := List.forall_mem_cons.mp each
      rw [nodesOfAll, List.mem_append] at inside
      rw [leftCallsOfAll, leftSizeOfAll, nodesOfAll, List.length_append]
      have branchSize := branch.leftSize_le facts
      have restSize : leftSizeOfAll facts rest ≤ (nodesOfAll rest).length :=
        leftSizeOfAll_le fun _ _ => leftSize_le _ _
      rcases inside with inBranch | inRest
      · refine (here inBranch).imp (List.subset_append_of_subset_left _) fun apart => ?_
        omega
      · refine (ih behind inRest).imp (List.subset_append_of_subset_right _) fun apart => ?_
        omega

theorem left_or_apart (facts : FactTable size) {inner node : Node size} (inside : inner ∈ node.nodes) :
    inner.leftCalls facts ⊆ node.leftCalls facts ∨
      inner.leftSize facts + node.leftSize facts ≤ node.nodes.length := by
  induction node with
  | literal | char | charClass | any | rule =>
      rw [nodes, List.mem_singleton] at inside
      exact .inl (inside ▸ List.Subset.refl _)
  | sequence parts ih =>
      rw [nodes, List.mem_cons] at inside
      rcases inside with same | inParts
      · exact .inl (same ▸ List.Subset.refl _)
      · exact (left_or_apart_sequence ih inParts).imp_right Nat.succ_le_succ
  | choice branches ih =>
      rw [nodes, List.mem_cons] at inside
      rcases inside with same | inBranches
      · exact .inl (same ▸ List.Subset.refl _)
      · exact (left_or_apart_choice ih inBranches).imp_right Nat.succ_le_succ
  | repetition _ _ _ _ ih | absent _ ih | capture _ _ ih =>
      rw [nodes, List.mem_cons] at inside
      rcases inside with same | inInner
      · exact .inl (same ▸ List.Subset.refl _)
      · exact (ih inInner).imp_right Nat.succ_le_succ

end Node

namespace RuleTable

variable {rules : RuleTable size} {facts : FactTable size}

def CallsAtLeft (rules : RuleTable size) (facts : FactTable size) (source target : Fin size) :
    Prop :=
  target ∈ (rules.get source).body.leftCalls facts

noncomputable def reached (rules : RuleTable size) (facts : FactTable size)
    (calls : List (Fin size)) : Finset (Fin size) :=
  (Set.toFinite
    {id | ∃ first ∈ calls, Relation.ReflTransGen (rules.CallsAtLeft facts) first id}).toFinset

@[simp]
theorem mem_reached {calls : List (Fin size)} {id : Fin size} :
    id ∈ rules.reached facts calls ↔
      ∃ first ∈ calls, Relation.ReflTransGen (rules.CallsAtLeft facts) first id := by
  simp [reached]

/-- What may lie on one another at one place: some nodes at the left, and behind their calls the
left of every rule that may be entered. -/
noncomputable def weightOf (rules : RuleTable size) (facts : FactTable size) (own : Nat)
    (calls : List (Fin size)) : Nat :=
  own + ∑ id ∈ rules.reached facts calls, (rules.get id).body.leftSize facts

noncomputable def weight (rules : RuleTable size) (facts : FactTable size) (node : Node size) :
    Nat :=
  rules.weightOf facts (node.leftSize facts) (node.leftCalls facts)

theorem weightOf_mono (rules : RuleTable size) (facts : FactTable size) {own own' : Nat}
    {calls calls' : List (Fin size)} (larger : own ≤ own') (more : calls ⊆ calls') :
    rules.weightOf facts own calls ≤ rules.weightOf facts own' calls' := by
  refine Nat.add_le_add larger (Finset.sum_le_sum_of_subset fun id => ?_)
  rw [mem_reached, mem_reached]
  exact fun ⟨first, member, reaches⟩ => ⟨first, more member, reaches⟩

theorem weight_lt_of_le {node : Node size} {own : Nat} {calls : List (Fin size)}
    (larger : node.leftSize facts ≤ own) (more : node.leftCalls facts ⊆ calls) :
    rules.weight facts node < rules.weightOf facts (own + 1) calls := by
  have bound := weightOf_mono rules facts larger more
  rw [weight]
  simp only [weightOf] at bound ⊢
  omega

theorem weight_pos (rules : RuleTable size) (facts : FactTable size) (node : Node size) :
    0 < rules.weight facts node :=
  Nat.add_pos_left node.leftSize_pos _

theorem nodeCount_eq_sum (rules : RuleTable size) :
    rules.nodeCount = ∑ id, (rules.get id).body.nodes.length := by
  rw [nodeCount, nodes, List.length_flatMap, Fin.sum_univ_def]

theorem Accepted.not_mem_reached (accepted : rules.Accepted facts) {id : Fin size}
    {calls : List (Fin size)} (left : calls ⊆ (rules.get id).body.leftCalls facts) :
    id ∉ rules.reached facts calls := by
  rw [mem_reached]
  rintro ⟨first, member, reaches⟩
  exact accepted.noLeftRecursion id (.head' (left member) reaches)

theorem Accepted.weight_body_lt (accepted : rules.Accepted facts) (id : Fin size) :
    rules.weight facts (rules.get id).body < rules.weight facts (.rule id) := by
  have apart := accepted.not_mem_reached (List.Subset.refl ((rules.get id).body.leftCalls facts))
  have inside : insert id (rules.reached facts ((rules.get id).body.leftCalls facts)) ⊆
      rules.reached facts [id] := by
    intro other member
    rw [Finset.mem_insert, mem_reached] at member
    rw [mem_reached]
    rcases member with same | ⟨first, called, reaches⟩
    · exact ⟨id, List.mem_singleton_self id, same ▸ .refl⟩
    · exact ⟨id, List.mem_singleton_self id, .head called reaches⟩
  have sum : ∑ other ∈ insert id (rules.reached facts ((rules.get id).body.leftCalls facts)),
      (rules.get other).body.leftSize facts ≤
        ∑ other ∈ rules.reached facts [id], (rules.get other).body.leftSize facts :=
    Finset.sum_le_sum_of_subset inside
  rw [Finset.sum_insert apart] at sum
  simp only [weight, weightOf, Node.leftSize, Node.leftCalls]
  omega

theorem Accepted.weight_le_nodeCount (accepted : rules.Accepted facts) {node : Node size}
    (member : node ∈ rules.nodes) : rules.weight facts node ≤ rules.nodeCount := by
  obtain ⟨id, inside⟩ := mem_nodes.mp member
  have each : ∀ other ∈ (rules.reached facts (node.leftCalls facts)).erase id,
      (rules.get other).body.leftSize facts ≤ (rules.get other).body.nodes.length := fun _ _ =>
    Node.leftSize_le _ _
  have others : ∑ other ∈ (rules.reached facts (node.leftCalls facts)).erase id,
      (rules.get other).body.leftSize facts ≤
        ∑ other ∈ Finset.univ.erase id, (rules.get other).body.nodes.length :=
    (Finset.sum_le_sum each).trans
      (Finset.sum_le_sum_of_subset (Finset.erase_subset_erase id (Finset.subset_univ _)))
  rw [nodeCount_eq_sum, ← Finset.add_sum_erase _ _ (Finset.mem_univ id), weight, weightOf]
  -- the rule that holds the node is the only one to be counted twice: for the node, and as reached
  by_cases again : id ∈ rules.reached facts (node.leftCalls facts)
  · rw [← Finset.add_sum_erase _ _ again]
    rcases Node.left_or_apart facts inside with left | apart
    · exact (accepted.not_mem_reached left again).elim
    · omega
  · rw [Finset.erase_eq_of_notMem again] at others
    have nodeSize := node.leftSize_le facts
    have bodySize := Node.length_nodes_le inside
    omega

end RuleTable

end PegText
