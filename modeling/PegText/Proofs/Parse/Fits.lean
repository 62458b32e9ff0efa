import PegText.Proofs.Grammar.Accepted
import PegText.Proofs.Parse.Derives
import PegText.Proofs.Parse.Output

/-!
The facts about a node bound what it yields: the names of its record are among its keys, it gives
a list where it is said to, and plain text where it captures nothing. In an accepted table this
keeps the parts of every sequence from sharing a name.
-/

namespace PegText

variable {size : Nat} {facts : FactTable size}

structure Node.Fits (facts : FactTable size) (node : Node size) (output : Output) : Prop where
  keys : output.names ⊆ node.keys facts
  distinct : output.names.Nodup
  listed : node.isListed facts = true → output.isList = true
  plain : node.isStructured facts = false → output.isText = true

namespace Node

theorem fits_text {node : Node size} (slice : Slice) (unlisted : node.isListed facts = false) :
    node.Fits facts (.text slice) where
  keys := List.nil_subset _
  distinct := .nil
  listed due := absurd due (by simp [unlisted])
  plain _ := rfl

variable {parts : List (Node size)} {outputs : List Output}

theorem names_subset_keysInTurn (fits : List.Forall₂ (Fits facts) parts outputs) :
    outputs.flatMap Output.names ⊆ keysInTurn facts parts := by
  induction fits with
  | nil => exact List.Subset.refl _
  | cons first _ ih =>
      rw [List.flatMap_cons, keysInTurn, List.flatMap_cons]
      exact List.append_subset.mpr
        ⟨List.subset_append_of_subset_left _ first.keys, List.subset_append_of_subset_right _ ih⟩

theorem names_nodup (fits : List.Forall₂ (Fits facts) parts outputs)
    (distinct : (keysInTurn facts parts).Nodup) : (outputs.flatMap Output.names).Nodup := by
  induction fits with
  | nil => exact .nil
  | @cons part output parts outputs first later ih =>
      rw [keysInTurn, List.flatMap_cons, List.nodup_append] at distinct
      obtain ⟨_, distinctLater, apart⟩ := distinct
      rw [List.flatMap_cons, List.nodup_append]
      refine ⟨first.distinct, ih distinctLater, fun name early other late => ?_⟩
      exact apart name (first.keys early) other (names_subset_keysInTurn later late)

theorem any_isList (fits : List.Forall₂ (Fits facts) parts outputs)
    (listed : anyListed facts parts = true) : outputs.any Output.isList = true := by
  induction fits with
  | nil => cases listed
  | cons first _ ih =>
      rw [anyListed, Bool.or_eq_true] at listed
      rw [List.any_cons, Bool.or_eq_true]
      exact listed.imp first.listed ih

theorem all_isText (fits : List.Forall₂ (Fits facts) parts outputs)
    (unstructured : anyStructured facts parts = false) : outputs.all Output.isText = true := by
  induction fits with
  | nil => rfl
  | cons first _ ih =>
      rw [anyStructured, Bool.or_eq_false_iff] at unstructured
      rw [List.all_cons, Bool.and_eq_true]
      exact unstructured.imp first.plain ih

theorem fits_sequence {output : Output} (fits : List.Forall₂ (Fits facts) parts outputs)
    (sequenced : Output.Sequenced outputs output) : (sequence parts).Fits facts output where
  keys name member := by
    rw [Node.keys]
    split
    next listed =>
      -- A list has no names of its own.
      have list : output.isList = true := sequenced.isList.trans (any_isList fits listed)
      cases output with
      | list items => exact member
      | text | fields => cases list
    next unlisted =>
      have among := names_subset_keysInTurn fits (sequenced.names member)
      obtain ⟨part, inParts, inKeys⟩ := List.mem_flatMap.mp among
      exact mem_keysOfAll.mpr ⟨part, inParts, inKeys⟩
  distinct := sequenced.distinct
  listed due := sequenced.isList.trans (any_isList fits due)
  plain nothing := sequenced.isText.trans (all_isText fits nothing)

theorem nodup_keysInTurn {node : Node size} (member : sequence parts ∈ node.nodes)
    (accepted : node.clash? facts = none) : (keysInTurn facts parts).Nodup := by
  induction node with
  | literal | char | charClass | any | rule => simp [nodes] at member
  | sequence inner ih =>
      rw [clash?, Option.or_eq_none_iff, clashOfAll?_eq_none] at accepted
      rw [nodes, List.mem_cons, mem_nodesOfAll] at member
      rcases member with same | ⟨part, inParts, inPart⟩
      · cases same
        exact (Names.firstRepeated?_eq_none.mp accepted.1).1
      · exact ih part inParts inPart (accepted.2 part inParts)
  | choice branches ih =>
      rw [clash?, clashOfAll?_eq_none] at accepted
      rw [nodes, List.mem_cons, mem_nodesOfAll] at member
      rcases member with same | ⟨branch, inBranches, inBranch⟩
      · cases same
      · exact ih branch inBranches inBranch (accepted branch inBranches)
  | repetition _ _ _ _ ih | absent _ ih | capture _ _ ih =>
      rw [nodes, List.mem_cons] at member
      rcases member with same | inInner
      · cases same
      · exact ih inInner accepted

end Node

def Goal.Within (rules : RuleTable size) : Goal size → Prop
  | .node inner => inner ∈ rules.nodes
  | .parts all => ∀ part ∈ all, part ∈ rules.nodes
  | .branches all => ∀ branch ∈ all, branch ∈ rules.nodes
  | .rounds inner _ _ => inner ∈ rules.nodes

def Goal.Fits (facts : FactTable size) : Goal size → List Output → Prop
  | .node inner, outputs => ∀ output ∈ outputs, inner.Fits facts output
  | .parts all, outputs => List.Forall₂ (Node.Fits facts) all outputs
  | .branches all, outputs => ∀ output ∈ outputs, ∃ branch ∈ all, branch.Fits facts output
  | .rounds inner _ _, outputs => ∀ output ∈ outputs, inner.Fits facts output

namespace RuleTable

variable {rules : RuleTable size} {limited : Prop}

theorem Accepted.nodup_keysInTurn (accepted : rules.Accepted facts) {parts : List (Node size)}
    (member : .sequence parts ∈ rules.nodes) : (Node.keysInTurn facts parts).Nodup := by
  obtain ⟨id, inBody⟩ := mem_nodes.mp member
  exact Node.nodup_keysInTurn inBody (accepted.distinct id)

theorem Accepted.marked_repetition (accepted : rules.Accepted facts) {inner : Node size}
    {least : Nat} {most : Option Nat} {structured : Bool}
    (member : .repetition inner least most structured ∈ rules.nodes) :
    structured = inner.isStructured facts := by
  obtain ⟨id, inBody⟩ := mem_nodes.mp member
  exact accepted.marked id _ _ _ _ inBody

theorem Derives.fits (accepted : rules.Accepted facts) {goal : Goal size} {cursor next : Cursor}
    {outputs : List Output} (derives : rules.Derives limited goal cursor (some (outputs, next)))
    (within : goal.Within rules) : goal.Fits facts outputs := by
  generalize ended : some (outputs, next) = result at derives
  induction derives generalizing outputs next with
  | gaveUp | literalFails | charFails | charClassFails | anyFails | sequenceFails
  | repetitionFails | absentFails | captureFails | partsFail | partsFailLater | branchesNil =>
      cases ended
  | literal | char | charClass | any | absent =>
      cases ended
      exact List.forall_mem_singleton.mpr (Node.fits_text _ rfl)
  | @sequence parts _ _ _ _ _ merged ih =>
      cases ended
      have inside := ih (fun part member =>
        mem_nodes_of_inner within (Node.mem_nodes_sequence member)) rfl
      -- the parts have no key in common, so what they yield goes together
      have distinct := Node.names_nodup inside (accepted.nodup_keysInTurn within)
      obtain ⟨output, merged', sequenced⟩ := Output.ofSequence_sequenced _ _ distinct
      cases merged.symm.trans merged'
      exact List.forall_mem_singleton.mpr (Node.fits_sequence inside sequenced)
  | @choice branches _ _ _ ih =>
      intro output member
      obtain ⟨branch, inBranches, fits⟩ := ih (fun branch inBranches =>
        mem_nodes_of_inner within (Node.mem_nodes_choice inBranches)) ended output member
      refine ⟨fun name named => ?_, fits.distinct, fun listed => ?_, fun nothing => ?_⟩
      · exact Node.mem_keysOfAll.mpr ⟨branch, inBranches, fits.keys named⟩
      · rw [Node.isListed, Bool.and_eq_true, Node.allListed_iff] at listed
        exact fits.listed (listed.2 branch inBranches)
      · refine fits.plain (Bool.eq_false_iff.mpr fun structured => ?_)
        rw [Node.isStructured, Bool.eq_false_iff] at nothing
        exact nothing (Node.anyStructured_iff.mpr ⟨branch, inBranches, structured⟩)
  | @repetition inner _ _ structured cursor _ _ _ _ ih =>
      cases ended
      have mark := accepted.marked_repetition within
      have inside := ih (mem_nodes_of_inner within Node.mem_nodes_repetition) rfl
      refine List.forall_mem_singleton.mpr ⟨?_, ?_, fun listed => ?_, fun nothing => ?_⟩
      · rw [Output.names_ofRounds]
        exact List.nil_subset _
      · rw [Output.names_ofRounds]
        exact .nil
      · rw [mark, show inner.isStructured facts = true from listed]
        exact Output.isList_ofRounds _ _ _
      · rw [mark, show inner.isStructured facts = false from nothing]
        exact Output.isText_ofRounds fun output member => (inside output member).plain nothing
  | @capture name inner =>
      cases ended
      refine List.forall_mem_singleton.mpr ⟨?_, ?_, ?_, ?_⟩
      · exact List.Subset.refl [name]
      · exact List.nodup_singleton name
      · intro listed
        cases listed
      · intro nothing
        cases nothing
  | @rule id _ _ _ ih =>
      intro output member
      have fits := ih (rules.body_mem_nodes id) ended output member
      have same := accepted.facts_body id
      refine ⟨fun name named => ?_, fits.distinct, fun listed => ?_, fun nothing => ?_⟩
      · rw [Node.keys, ← same]
        exact fits.keys named
      · exact fits.listed ((congrArg Facts.listed same).trans listed)
      · exact fits.plain ((congrArg Facts.structured same).trans nothing)
  | partsNil =>
      cases ended
      exact .nil
  | partsCons _ _ first later =>
      cases ended
      obtain ⟨here, behind⟩ := List.forall_mem_cons.mp within
      exact .cons (first here rfl _ List.mem_cons_self) (later behind rfl)
  | branchesFirst _ ih =>
      cases ended
      have fits := ih (within _ List.mem_cons_self) rfl
      exact fun output member => ⟨_, List.mem_cons_self, fits output member⟩
  | branchesLater _ _ _ ih =>
      intro output member
      obtain ⟨branch, later, fits⟩ := ih (fun branch later =>
        within branch (List.mem_cons_of_mem _ later)) ended output member
      exact ⟨branch, List.mem_cons_of_mem _ later, fits⟩
  | roundsFull | roundsEnd =>
      cases ended
      exact List.forall_mem_nil _
  | roundsEmpty _ _ _ ih =>
      cases ended
      exact ih within rfl
  | roundsMore _ _ _ _ first later =>
      cases ended
      exact List.forall_mem_cons.mpr ⟨first within rfl _ List.mem_cons_self, later within rfl⟩

end RuleTable

end PegText
