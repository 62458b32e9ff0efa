import PegText.Grammar.Checks
import PegText.Proofs.Entries

/-!
Nodes inside nodes: induction over them, the list of all nodes of a rule, and each fact about a
node in terms of the nodes directly inside it.
-/

namespace PegText

theorem Names.firstRepeated?_eq_none {names seen : List String} :
    firstRepeated? seen names = none ↔ names.Nodup ∧ ∀ name ∈ names, name ∉ seen := by
  induction names generalizing seen with
  | nil => simp [firstRepeated?]
  | cons name rest ih =>
      rw [firstRepeated?]
      by_cases known : name ∈ seen
      · simp [known]
      · simp only [List.contains_iff_mem, known, if_false, ih, List.nodup_cons, List.mem_cons]
        constructor
        · rintro ⟨distinct, apart⟩
          refine ⟨⟨fun again => apart name again (.inl rfl), distinct⟩, ?_⟩
          rintro other (same | later)
          · exact same ▸ known
          · exact fun old => apart other later (.inr old)
        · rintro ⟨⟨absent, distinct⟩, apart⟩
          refine ⟨distinct, fun other later => ?_⟩
          rintro (same | old)
          · exact absent (same ▸ later)
          · exact apart other (.inr later) old

variable {size : Nat}

namespace Node

/-- Induction over a node, with the nodes directly inside it as smaller ones. -/
@[elab_as_elim, induction_eliminator]
theorem induct {motive : Node size → Prop}
    (literal : ∀ text, motive (.literal text))
    (char : ∀ c, motive (.char c))
    (charClass : ∀ text accepts, motive (.charClass text accepts))
    (any : motive .any)
    (sequence : ∀ parts, (∀ part ∈ parts, motive part) → motive (.sequence parts))
    (choice : ∀ branches, (∀ branch ∈ branches, motive branch) → motive (.choice branches))
    (repetition : ∀ inner least most structured, motive inner →
      motive (.repetition inner least most structured))
    (absent : ∀ inner, motive inner → motive (.absent inner))
    (capture : ∀ name inner, motive inner → motive (.capture name inner))
    (rule : ∀ id, motive (.rule id))
    (node : Node size) : motive node := by
  refine @Node.rec size motive (fun nodes => ∀ node ∈ nodes, motive node) literal char charClass
    any sequence choice repetition absent capture rule ?_ ?_ node
  · intro node member
    cases member
  · intro first rest first_ih rest_ih node member
    rcases List.mem_cons.mp member with same | later
    · exact same ▸ first_ih
    · exact rest_ih node later

mutual

def nodes : Node size → List (Node size)
  | literal text => [literal text]
  | char c => [char c]
  | charClass text accepts => [charClass text accepts]
  | any => [any]
  | sequence parts => sequence parts :: nodesOfAll parts
  | choice branches => choice branches :: nodesOfAll branches
  | repetition inner least most structured =>
      repetition inner least most structured :: inner.nodes
  | absent inner => absent inner :: inner.nodes
  | capture name inner => capture name inner :: inner.nodes
  | rule id => [rule id]

def nodesOfAll : List (Node size) → List (Node size)
  | [] => []
  | node :: rest => node.nodes ++ nodesOfAll rest

end

attribute [local simp] nodes nodesOfAll

@[simp]
theorem mem_nodesOfAll {inner : Node size} {all : List (Node size)} :
    inner ∈ nodesOfAll all ↔ ∃ node ∈ all, inner ∈ node.nodes := by
  induction all with
  | nil => simp
  | cons node rest ih => simp [ih]

theorem self_mem_nodes (node : Node size) : node ∈ node.nodes := by
  cases node <;> simp

theorem mem_nodes_trans {inner middle node : Node size} (inMiddle : inner ∈ middle.nodes)
    (inNode : middle ∈ node.nodes) : inner ∈ node.nodes := by
  induction node with
  | literal | char | charClass | any | rule =>
      rw [nodes, List.mem_singleton] at inNode
      exact inNode ▸ inMiddle
  | sequence parts ih | choice parts ih =>
      rw [nodes, List.mem_cons, mem_nodesOfAll] at inNode
      rcases inNode with same | ⟨part, member, inPart⟩
      · exact same ▸ inMiddle
      · rw [nodes, List.mem_cons, mem_nodesOfAll]
        exact .inr ⟨part, member, ih part member inPart⟩
  | repetition _ _ _ _ ih | absent _ ih | capture _ _ ih =>
      rw [nodes, List.mem_cons] at inNode
      rcases inNode with same | inInner
      · exact same ▸ inMiddle
      · rw [nodes, List.mem_cons]
        exact .inr (ih inInner)

theorem mem_nodes_sequence {part : Node size} {parts : List (Node size)}
    (member : part ∈ parts) : part ∈ (sequence parts).nodes := by
  rw [nodes, List.mem_cons, mem_nodesOfAll]
  exact .inr ⟨part, member, part.self_mem_nodes⟩

theorem mem_nodes_choice {branch : Node size} {branches : List (Node size)}
    (member : branch ∈ branches) : branch ∈ (choice branches).nodes := by
  rw [nodes, List.mem_cons, mem_nodesOfAll]
  exact .inr ⟨branch, member, branch.self_mem_nodes⟩

theorem mem_nodes_repetition {inner : Node size} {least : Nat} {most : Option Nat}
    {structured : Bool} : inner ∈ (repetition inner least most structured).nodes := by
  rw [nodes, List.mem_cons]
  exact .inr inner.self_mem_nodes

theorem mem_nodes_absent {inner : Node size} : inner ∈ (absent inner).nodes := by
  rw [nodes, List.mem_cons]
  exact .inr inner.self_mem_nodes

theorem mem_nodes_capture {name : String} {inner : Node size} :
    inner ∈ (capture name inner).nodes := by
  rw [nodes, List.mem_cons]
  exact .inr inner.self_mem_nodes

variable {facts : FactTable size}

attribute [local simp] anyStructured anyListed allListed allNullable anyNullable keysOfAll
  leftCallsOfAll captureNamesOfAll clashOfAll?

@[simp]
theorem anyStructured_iff {all : List (Node size)} :
    anyStructured facts all = true ↔ ∃ node ∈ all, node.isStructured facts = true := by
  induction all with
  | nil => simp
  | cons node rest ih => simp [ih]

@[simp]
theorem anyListed_iff {all : List (Node size)} :
    anyListed facts all = true ↔ ∃ node ∈ all, node.isListed facts = true := by
  induction all with
  | nil => simp
  | cons node rest ih => simp [ih]

@[simp]
theorem allListed_iff {all : List (Node size)} :
    allListed facts all = true ↔ ∀ node ∈ all, node.isListed facts = true := by
  induction all with
  | nil => simp
  | cons node rest ih => simp [ih]

@[simp]
theorem allNullable_iff {all : List (Node size)} :
    allNullable facts all = true ↔ ∀ node ∈ all, node.isNullable facts = true := by
  induction all with
  | nil => simp
  | cons node rest ih => simp [ih]

@[simp]
theorem anyNullable_iff {all : List (Node size)} :
    anyNullable facts all = true ↔ ∃ node ∈ all, node.isNullable facts = true := by
  induction all with
  | nil => simp
  | cons node rest ih => simp [ih]

@[simp]
theorem mem_keysOfAll {name : String} {all : List (Node size)} :
    name ∈ keysOfAll facts all ↔ ∃ node ∈ all, name ∈ node.keys facts := by
  induction all with
  | nil => simp
  | cons node rest ih => simp [ih]

@[simp]
theorem mem_leftCallsOfAll {id : Fin size} {all : List (Node size)} :
    id ∈ leftCallsOfAll facts all ↔ ∃ node ∈ all, id ∈ node.leftCalls facts := by
  induction all with
  | nil => simp
  | cons node rest ih => simp [ih]

@[simp]
theorem mem_captureNamesOfAll {name : String} {all : List (Node size)} :
    name ∈ captureNamesOfAll all ↔ ∃ node ∈ all, name ∈ node.captureNames := by
  induction all with
  | nil => simp
  | cons node rest ih => simp [ih]

theorem clashOfAll?_eq_none {all : List (Node size)} :
    clashOfAll? facts all = none ↔ ∀ node ∈ all, node.clash? facts = none := by
  induction all with
  | nil => simp
  | cons node rest ih => simp [ih]

end Node

namespace RuleTable

def nodes (rules : RuleTable size) : List (Node size) :=
  (List.finRange size).flatMap fun id => (rules.get id).body.nodes

def nodeCount (rules : RuleTable size) : Nat := rules.nodes.length

theorem mem_nodes {rules : RuleTable size} {node : Node size} :
    node ∈ rules.nodes ↔ ∃ id, node ∈ (rules.get id).body.nodes := by
  simp [nodes]

theorem body_mem_nodes (rules : RuleTable size) (id : Fin size) :
    (rules.get id).body ∈ rules.nodes :=
  mem_nodes.mpr ⟨id, Node.self_mem_nodes _⟩

theorem mem_nodes_of_inner {rules : RuleTable size} {node inner : Node size}
    (member : node ∈ rules.nodes) (inside : inner ∈ node.nodes) : inner ∈ rules.nodes := by
  obtain ⟨id, inBody⟩ := mem_nodes.mp member
  exact mem_nodes.mpr ⟨id, Node.mem_nodes_trans inside inBody⟩

end RuleTable

end PegText
