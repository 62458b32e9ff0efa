import PegText.Proofs.Grammar.Order

/-!
Flattened grammars. A sequence directly inside a sequence, or a choice directly inside a choice,
can be replaced by what it holds, as `>>>` and `|||` do it. All that is known of a rule without any
input stays the same, but for one thing: a sequence that gives a list no longer hides its names from
the sequence around it. So a grammar is accepted wherever a flattened form of it is.
-/

namespace PegText

inductive Joint
  | sequence
  | choice
  deriving DecidableEq

namespace Joint

def matcher : Joint → List Matcher → Matcher
  | sequence => .sequence
  | choice => .choice

def node {size : Nat} : Joint → List (Node size) → Node size
  | sequence => .sequence
  | choice => .choice

def parts : Joint → Matcher → List Matcher
  | sequence => Matcher.parts
  | choice => Matcher.branches

end Joint

variable {size : Nat} {opened : Joint → Prop}

theorem exists_append_of_forall₂ {α β : Type} {relates : α → β → Prop} {front back : List α}
    {all : List β} (each : List.Forall₂ relates (front ++ back) all) :
    ∃ front' back', List.Forall₂ relates front front' ∧ List.Forall₂ relates back back' ∧
      all = front' ++ back' := by
  induction front generalizing all with
  | nil => exact ⟨[], all, .nil, each, rfl⟩
  | cons first rest ih =>
      cases each with
      | cons here behind =>
          obtain ⟨front', back', inFront, inBack, rfl⟩ := ih behind
          exact ⟨_ :: front', back', .cons here inFront, inBack, rfl⟩

theorem eq_of_reflGen {α β : Type} {relates : α → α → Prop} {first second : α} (of : α → β)
    (reached : Relation.ReflGen relates first second)
    (kept : relates first second → of second = of first) : of second = of first := by
  rcases (Relation.reflGen_iff _ _ _).mp reached with rfl | step
  · rfl
  · exact kept step

theorem map_eq_ok {α β ε : Type} {of : α → β} {result : Except ε α} {value : β} :
    result.map of = .ok value ↔ ∃ inner, result = .ok inner ∧ of inner = value := by
  cases result <;> simp [Except.map]

/-- Somewhere in the matcher, a joint that is not empty stands directly inside one of the same kind
and is replaced by what it holds. Only joints of the kinds that are `opened` are. -/
inductive Matcher.Flattens (opened : Joint → Prop) : Matcher → Matcher → Prop
  | here {joint : Joint} {front inner back} : opened joint → inner ≠ [] →
      Flattens opened (joint.matcher (front ++ joint.matcher inner :: back))
        (joint.matcher (front ++ (inner ++ back)))
  | inside {joint : Joint} {front part flattened back} : Flattens opened part flattened →
      Flattens opened (joint.matcher (front ++ part :: back))
        (joint.matcher (front ++ flattened :: back))
  | repetition {inner flattened least most} : Flattens opened inner flattened →
      Flattens opened (.repetition inner least most) (.repetition flattened least most)
  | absent {inner flattened} : Flattens opened inner flattened →
      Flattens opened (.absent inner) (.absent flattened)
  | capture {name inner flattened} : Flattens opened inner flattened →
      Flattens opened (.capture name inner) (.capture name flattened)

inductive Node.Flattens (opened : Joint → Prop) : Node size → Node size → Prop
  | here {joint : Joint} {front inner back} : opened joint → inner ≠ [] →
      Flattens opened (joint.node (front ++ joint.node inner :: back))
        (joint.node (front ++ (inner ++ back)))
  | inside {joint : Joint} {front part flattened back} : Flattens opened part flattened →
      Flattens opened (joint.node (front ++ part :: back))
        (joint.node (front ++ flattened :: back))
  | repetition {inner flattened least most structured} : Flattens opened inner flattened →
      Flattens opened (.repetition inner least most structured)
        (.repetition flattened least most structured)
  | absent {inner flattened} : Flattens opened inner flattened →
      Flattens opened (.absent inner) (.absent flattened)
  | capture {name inner flattened} : Flattens opened inner flattened →
      Flattens opened (.capture name inner) (.capture name flattened)

namespace Matcher

theorem flattens_parts {joint : Joint} (free : opened joint) (front : List Matcher)
    {part : Matcher} (filled : joint.parts part ≠ []) (back : List Matcher) :
    Relation.ReflGen (Flattens opened) (joint.matcher (front ++ part :: back))
      (joint.matcher (front ++ (joint.parts part ++ back))) := by
  cases joint with
  | sequence =>
      cases part with
      | sequence inner => exact .single (@Flattens.here opened .sequence _ _ _ free filled)
      | _ => exact .refl
  | choice =>
      cases part with
      | choice inner => exact .single (@Flattens.here opened .choice _ _ _ free filled)
      | _ => exact .refl

theorem flattens_operator {joint : Joint} {first second : Matcher}
    (filled : joint.parts first ≠ []) (filled' : joint.parts second ≠ []) :
    Relation.ReflTransGen (Flattens (· = joint)) (joint.matcher [first, second])
      (joint.matcher (joint.parts first ++ joint.parts second)) := by
  have one := @flattens_parts (· = joint) joint rfl [] first filled [second]
  have two := @flattens_parts (· = joint) joint rfl (joint.parts first) second filled' []
  rw [List.append_nil] at two
  exact one.to_reflTransGen.trans two.to_reflTransGen

/-- What `>>>` makes of two matchers, neither of them the empty sequence, is a flattened form of the
sequence of the two. -/
theorem flattens_shiftRight {first second : Matcher} (filled : first ≠ .sequence [])
    (filled' : second ≠ .sequence []) :
    Relation.ReflTransGen (Flattens (· = .sequence)) (.sequence [first, second])
      (first >>> second) := by
  have parts_ne_nil {matcher : Matcher} (filled : matcher ≠ .sequence []) :
      matcher.parts ≠ [] := by
    cases matcher <;> simp_all [parts]
  exact @flattens_operator .sequence _ _ (parts_ne_nil filled) (parts_ne_nil filled')

theorem flattens_or {first second : Matcher} (filled : first ≠ .choice [])
    (filled' : second ≠ .choice []) :
    Relation.ReflTransGen (Flattens (· = .choice)) (.choice [first, second])
      (first ||| second) := by
  have branches_ne_nil {matcher : Matcher} (filled : matcher ≠ .choice []) :
      matcher.branches ≠ [] := by
    cases matcher <;> simp_all [branches]
  exact @flattens_operator .choice _ _ (branches_ne_nil filled) (branches_ne_nil filled')

theorem referencesOfAll_eq_flatMap (all : List Matcher) :
    referencesOfAll all = all.flatMap references := by
  induction all with
  | nil => rfl
  | cons matcher rest ih => rw [referencesOfAll, List.flatMap_cons, ih]

theorem references_joint (joint : Joint) (parts : List Matcher) :
    (joint.matcher parts).references = parts.flatMap references := by
  cases joint <;> exact referencesOfAll_eq_flatMap parts

theorem Flattens.references {matcher flattened : Matcher}
    (flattens : matcher.Flattens opened flattened) :
    flattened.references = matcher.references := by
  induction flattens with
  | here => simp [references_joint]
  | inside _ ih => simp [references_joint, ih]
  | repetition _ ih | absent _ ih | capture _ ih => exact ih

variable {read : CharClass.Reader} {find : String → Option (Fin size)} {owner : String}

theorem compileAll_eq_mapM (all : List Matcher) :
    compileAll read find owner all = all.mapM (compile read find owner) := by
  induction all with
  | nil => rfl
  | cons matcher rest ih =>
      rw [compileAll, List.mapM_cons, ← ih]
      cases matcher.compile read find owner with
      | error cause => rfl
      | ok node => cases compileAll read find owner rest <;> rfl

theorem compile_joint_eq_ok {joint : Joint} {parts : List Matcher} {node : Node size} :
    (joint.matcher parts).compile read find owner = .ok node ↔
      ∃ nodes, List.Forall₂ (fun part node => part.compile read find owner = .ok node) parts nodes ∧
        joint.node nodes = node := by
  have compiled : (joint.matcher parts).compile read find owner =
      (parts.mapM (compile read find owner)).map joint.node := by
    rw [← compileAll_eq_mapM]
    cases joint <;> rfl
  simp only [compiled, map_eq_ok, forall₂_mapM]

/-- What a flattened matcher compiles to is a flattened form of what the matcher compiles to. -/
theorem Flattens.compile {matcher flattened : Matcher}
    (flattens : matcher.Flattens opened flattened) {node' : Node size}
    (compiles : flattened.compile read find owner = .ok node') :
    ∃ node, matcher.compile read find owner = .ok node ∧ node.Flattens opened node' := by
  induction flattens generalizing node' with
  | @here joint front inner back free filled =>
      obtain ⟨nodes, each, rfl⟩ := compile_joint_eq_ok.mp compiles
      obtain ⟨front', rest', inFront, inRest, rfl⟩ := exists_append_of_forall₂ each
      obtain ⟨inner', back', inInner, inBack, rfl⟩ := exists_append_of_forall₂ inRest
      have whole : (joint.matcher inner).compile read find owner = .ok (joint.node inner') :=
        compile_joint_eq_ok.mpr ⟨inner', inInner, rfl⟩
      refine ⟨_, compile_joint_eq_ok.mpr ⟨_, List.rel_append inFront (.cons whole inBack), rfl⟩, ?_⟩
      refine .here free fun empty => filled ?_
      rw [empty] at inInner
      exact List.forall₂_nil_right_iff.mp inInner
  | @inside joint front part flattened back _ ih =>
      obtain ⟨nodes, each, rfl⟩ := compile_joint_eq_ok.mp compiles
      obtain ⟨front', rest', inFront, inRest, rfl⟩ := exists_append_of_forall₂ each
      obtain ⟨part', back', here, inBack, rfl⟩ := List.forall₂_cons_left_iff.mp inRest
      obtain ⟨original, compiled, inner⟩ := ih here
      exact ⟨_, compile_joint_eq_ok.mpr ⟨_, List.rel_append inFront (.cons compiled inBack), rfl⟩,
        .inside inner⟩
  | repetition _ ih | absent _ ih | capture _ ih =>
      obtain ⟨inner', compiled, rfl⟩ := map_eq_ok.mp compiles
      obtain ⟨inner, done, flattens⟩ := ih compiled
      refine ⟨_, map_eq_ok.mpr ⟨inner, done, rfl⟩, ?_⟩
      constructor
      exact flattens

end Matcher

/-! Flattening changes no fact about a node, but that a list may stop hiding its names. -/

namespace Node

variable {facts : FactTable size} {node flattened : Node size}

theorem isStructured_joint (joint : Joint) (parts : List (Node size)) :
    (joint.node parts).isStructured facts = parts.any (isStructured facts) := by
  have same : anyStructured facts parts = parts.any (isStructured facts) :=
    Bool.eq_iff_iff.mpr (by simp)
  cases joint <;> exact same

theorem isListed_joint (joint : Joint) (parts : List (Node size)) :
    (joint.node parts).isListed facts =
      match joint with
      | .sequence => parts.any (isListed facts)
      | .choice => !parts.isEmpty && parts.all (isListed facts) := by
  cases joint with
  | sequence => exact Bool.eq_iff_iff.mpr (by simp [Joint.node, isListed])
  | choice => exact Bool.eq_iff_iff.mpr (by simp [Joint.node, isListed])

theorem isNullable_joint (joint : Joint) (parts : List (Node size)) :
    (joint.node parts).isNullable facts =
      match joint with
      | .sequence => parts.all (isNullable facts)
      | .choice => parts.any (isNullable facts) := by
  cases joint with
  | sequence => exact Bool.eq_iff_iff.mpr (by simp [Joint.node, isNullable])
  | choice => exact Bool.eq_iff_iff.mpr (by simp [Joint.node, isNullable])

namespace Flattens

theorem isStructured (flattens : node.Flattens opened flattened) :
    flattened.isStructured facts = node.isStructured facts := by
  induction flattens with
  | here => simp [isStructured_joint]
  | inside _ ih => simp [isStructured_joint, ih]
  | repetition _ ih => exact ih
  | absent | capture => rfl

theorem isListed (flattens : node.Flattens opened flattened) :
    flattened.isListed facts = node.isListed facts := by
  induction flattens with
  | @here joint _ _ _ _ filled =>
      refine Bool.eq_iff_iff.mpr ?_
      cases joint <;> simp [isListed_joint, filled]
  | @inside joint _ _ _ _ _ ih =>
      refine Bool.eq_iff_iff.mpr ?_
      cases joint <;> simp [isListed_joint, ih]
  | repetition inner => exact inner.isStructured
  | absent | capture => rfl

theorem isNullable (flattens : node.Flattens opened flattened) :
    flattened.isNullable facts = node.isNullable facts := by
  induction flattens with
  | @here joint => cases joint <;> simp [isNullable_joint]
  | @inside joint _ _ _ _ _ ih => cases joint <;> simp [isNullable_joint, ih]
  | repetition _ ih => rw [Node.isNullable, Node.isNullable, ih]
  | absent => rfl
  | capture _ ih => exact ih

end Flattens

theorem mem_keys_joint {joint : Joint} {name : String} {parts : List (Node size)} :
    name ∈ (joint.node parts).keys facts ↔
      (joint = .sequence → parts.any (Node.isListed facts) = false) ∧
        ∃ part ∈ parts, name ∈ part.keys facts := by
  cases joint with
  | choice => simp [Joint.node, keys]
  | sequence =>
    have same : anyListed facts parts = parts.any (Node.isListed facts) :=
      Bool.eq_iff_iff.mpr (by simp)
    rw [Joint.node, keys, same]
    split <;> simp_all

namespace Flattens

theorem mem_keys (flattens : node.Flattens opened flattened) {name : String} :
    name ∈ flattened.keys facts ↔ name ∈ node.keys facts := by
  induction flattens with
  | @here joint =>
      cases joint with
      | choice => simp [mem_keys_joint, or_and_right, exists_or]
      | sequence =>
          -- a list inside hides all names, whether from the inner sequence or from the outer one
          simp only [mem_keys_joint, isListed_joint, List.any_append, List.any_cons,
            List.mem_append, List.mem_cons, or_and_right, exists_or, exists_eq_left,
            Bool.or_eq_false_iff, true_imp_iff]
          refine and_congr_right fun ⟨_, unlisted, _⟩ => ?_
          rw [eq_true unlisted, true_and]
  | @inside joint _ _ _ _ inner ih =>
    simp [mem_keys_joint, ih, inner.isListed, or_and_right, exists_or]
  | repetition => rfl
  | absent => rfl
  | capture => rfl

theorem keys_eq (flattens : node.Flattens opened flattened)
    (sorted : ∀ id, Names.Sorted (facts.get id).keys) :
    flattened.keys facts = node.keys facts :=
  (sorted_keys sorted flattened).eq_of_members (sorted_keys sorted node)
    fun _ => flattens.mem_keys

theorem facts_eq (flattens : node.Flattens opened flattened)
    (sorted : ∀ id, Names.Sorted (facts.get id).keys) :
    flattened.facts facts = node.facts facts := by
  rw [Node.facts, Node.facts, flattens.isStructured, flattens.isListed, flattens.keys_eq sorted,
    flattens.isNullable]

end Flattens

theorem leftCallsOfAll_eq_flatMap (all : List (Node size)) :
    leftCallsOfAll facts all = all.flatMap (leftCalls facts) := by
  induction all with
  | nil => rfl
  | cons node rest ih => rw [leftCallsOfAll, List.flatMap_cons, ih]

theorem leftCallsOfSequence_append (front back : List (Node size)) :
    leftCallsOfSequence facts (front ++ back) =
      leftCallsOfSequence facts front ++
        if front.all (Node.isNullable facts) then leftCallsOfSequence facts back else [] := by
  induction front with
  | nil => rfl
  | cons node rest ih =>
      rw [List.cons_append, leftCallsOfSequence, leftCallsOfSequence, ih, List.all_cons]
      cases node.isNullable facts <;> simp

namespace Flattens

theorem leftCalls (flattens : node.Flattens opened flattened) :
    flattened.leftCalls facts = node.leftCalls facts := by
  induction flattens with
  | @here joint _ inner =>
      cases joint with
      | choice => simp [Joint.node, Node.leftCalls, leftCallsOfAll_eq_flatMap]
      | sequence =>
          have whole := @isNullable_joint _ facts .sequence inner
          simp only [Joint.node] at whole
          simp [Joint.node, Node.leftCalls, leftCallsOfSequence_append, leftCallsOfSequence, whole]
  | @inside joint _ _ _ _ inner ih =>
      cases joint with
      | choice => simp [Joint.node, Node.leftCalls, leftCallsOfAll_eq_flatMap, ih]
      | sequence =>
          simp [Joint.node, Node.leftCalls, leftCallsOfSequence_append, leftCallsOfSequence, ih,
            inner.isNullable]
  | repetition _ ih | absent _ ih | capture _ ih => exact ih

theorem markStructured (flattens : node.Flattens opened flattened) :
    (node.markStructured facts).Flattens opened (flattened.markStructured facts) := by
  have marked (joint : Joint) (parts : List (Node size)) :
      (joint.node parts).markStructured facts =
        joint.node (parts.map (Node.markStructured facts)) := by
    rw [← markAll_eq_map]
    cases joint <;> rfl
  induction flattens with
  | here free filled =>
      simp only [marked, List.map_append, List.map_cons]
      exact .here free (mt List.map_eq_nil_iff.mp filled)
  | inside _ ih =>
      simp only [marked, List.map_append, List.map_cons]
      exact .inside ih
  | repetition inner ih =>
      rw [Node.markStructured, Node.markStructured, inner.isStructured]
      exact .repetition ih
  | absent _ ih => exact .absent ih
  | capture _ ih => exact .capture ih

end Flattens

theorem clash?_joint_eq_none {joint : Joint} {parts : List (Node size)} :
    (joint.node parts).clash? facts = none ↔
      (joint = .sequence → (keysInTurn facts parts).Nodup) ∧
        ∀ part ∈ parts, part.clash? facts = none := by
  cases joint with
  | choice => simp [Joint.node, clash?, clashOfAll?_eq_none]
  | sequence => simp [Joint.node, clash?, clashOfAll?_eq_none, Names.firstRepeated?_eq_none]

theorem keysInTurn_append (front back : List (Node size)) :
    keysInTurn facts (front ++ back) = keysInTurn facts front ++ keysInTurn facts back :=
  List.flatMap_append

theorem keysInTurn_cons (node : Node size) (rest : List (Node size)) :
    keysInTurn facts (node :: rest) = node.keys facts ++ keysInTurn facts rest :=
  List.flatMap_cons

theorem keys_joint_subset (joint : Joint) (parts : List (Node size)) :
    (joint.node parts).keys facts ⊆ keysInTurn facts parts := by
  intro name known
  obtain ⟨-, part, member, captured⟩ := mem_keys_joint.mp known
  exact List.mem_flatMap.mpr ⟨part, member, captured⟩

theorem Flattens.clash?_eq_none (flattens : node.Flattens opened flattened)
    (sorted : ∀ id, Names.Sorted (facts.get id).keys) (distinct : flattened.clash? facts = none) :
    node.clash? facts = none := by
  induction flattens with
  | @here joint front inner back =>
      rw [clash?_joint_eq_none, List.forall_mem_append, List.forall_mem_append] at distinct
      obtain ⟨once, inFront, inInner, inBack⟩ := distinct
      simp only [keysInTurn_append] at once
      have whole : (joint.node inner).clash? facts = none :=
        clash?_joint_eq_none.mpr ⟨fun same => (once same).of_append_right.of_append_left, inInner⟩
      rw [clash?_joint_eq_none, List.forall_mem_append, List.forall_mem_cons]
      refine ⟨fun same => ?_, inFront, whole, inBack⟩
      have fewer : (joint.node inner).keys facts ⊆ keysInTurn facts inner :=
        keys_joint_subset joint inner
      have distinctKeys := (sorted_keys sorted (joint.node inner)).nodup
      rw [keysInTurn_append, keysInTurn_cons]
      have once := once same
      simp only [List.nodup_append', List.disjoint_append_right] at once ⊢
      obtain ⟨onceFront, ⟨-, onceBack, apart⟩, apartInner, apartBack⟩ := once
      exact ⟨onceFront, ⟨distinctKeys, onceBack, List.disjoint_of_subset_left fewer apart⟩,
        List.disjoint_of_subset_right fewer apartInner, apartBack⟩
  | @inside joint front part _ back inner ih =>
      rw [clash?_joint_eq_none, List.forall_mem_append, List.forall_mem_cons, keysInTurn_append,
        keysInTurn_cons, inner.keys_eq sorted] at distinct
      obtain ⟨once, inFront, inPart, inBack⟩ := distinct
      rw [clash?_joint_eq_none, List.forall_mem_append, List.forall_mem_cons, keysInTurn_append,
        keysInTurn_cons]
      exact ⟨once, inFront, ih inPart, inBack⟩
  | repetition _ ih | absent _ ih | capture _ ih => exact ih distinct

end Node

namespace RuleTable

def Flattens (opened : Joint → Prop) (rules rules' : RuleTable size) : Prop :=
  ∀ id, (rules'.get id).name = (rules.get id).name ∧
    Relation.ReflGen (Node.Flattens opened) (rules.get id).body (rules'.get id).body

namespace Flattens

variable {rules rules' : RuleTable size} {facts : FactTable size}

theorem update_eq (flattens : rules.Flattens opened rules')
    (sorted : ∀ id, Names.Sorted (facts.get id).keys) (id : Fin size) :
    rules'.update facts id = rules.update facts id := by
  have same : (rules'.get id).body.facts facts = (rules.get id).body.facts facts :=
    eq_of_reflGen (Node.facts facts) (flattens id).2 fun step => step.facts_eq sorted
  rw [update, update, same]

theorem pass_eq (flattens : rules.Flattens opened rules') (canonical : rules.Canonical facts) :
    rules'.pass facts = rules.pass facts := by
  rw [pass, pass]
  induction List.finRange size generalizing facts with
  | nil => rfl
  | cons id rest ih =>
      rw [List.foldl_cons, List.foldl_cons, flattens.update_eq fun id => (canonical id).1]
      exact ih (canonical_update canonical id)

theorem after_eq (flattens : rules.Flattens opened rules') (passes : Nat) :
    rules'.after passes = rules.after passes := by
  induction passes with
  | zero => rfl
  | succ passes ih =>
      rw [after_succ, after_succ, ih, flattens.pass_eq (canonical_after rules passes)]

theorem facts?_eq_some (flattens : rules.Flattens opened rules')
    (settled : rules'.facts? = some facts) : rules.facts? = some facts := by
  obtain ⟨rest, passes, reached⟩ := settle?_eq_some settled
  have reachedThere : rules.after passes = facts :=
    (flattens.after_eq passes).symm.trans reached.symm
  have canonical : rules.Canonical facts := reachedThere ▸ canonical_after rules passes
  exact RuleTable.facts?_eq_some reachedThere ((flattens.pass_eq canonical).symm.trans rest)

theorem check_eq_ok (flattens : rules.Flattens opened rules')
    (settled : rules'.facts? = some facts) (checked : Grammar.Draft.check rules' facts = .ok ()) :
    Grammar.Draft.check rules facts = .ok () := by
  have sorted := sorted_of_facts? settled
  obtain ⟨distinct, acyclic⟩ := RuleTable.check_eq_ok.mp checked
  have calls (id : Fin size) :
      (rules'.get id).body.leftCalls facts = (rules.get id).body.leftCalls facts :=
    eq_of_reflGen (Node.leftCalls facts) (flattens id).2 fun step => step.leftCalls
  refine RuleTable.check_eq_ok.mpr ⟨fun id => ?_, fun id cycle => acyclic id ?_⟩
  · rcases (Relation.reflGen_iff _ _ _).mp (flattens id).2 with same | step
    · exact same ▸ distinct id
    · exact step.clash?_eq_none sorted (distinct id)
  · simpa only [calls] using cycle

theorem marked (flattens : rules.Flattens opened rules') :
    (rules.marked facts).Flattens opened (rules'.marked facts) := by
  intro id
  rw [get_marked, get_marked]
  obtain ⟨name, body⟩ := flattens id
  refine ⟨name, ?_⟩
  rcases (Relation.reflGen_iff _ _ _).mp body with same | step
  · rw [same]
  · exact .single step.markStructured

end Flattens

end RuleTable

namespace Grammar

inductive Flattens (opened : Joint → Prop) : Grammar → Grammar → Prop
  | intro {name size root maxNesting} {rules rules' : RuleTable size} {facts : FactTable size} :
      rules.Flattens opened rules' → rules.Accepted facts → rules'.Accepted facts →
      Flattens opened ⟨name, size, rules, root, maxNesting⟩ ⟨name, size, rules', root, maxNesting⟩

namespace Draft

/-- The same draft, but that each matcher is flattened at one place or left as it is. -/
structure Flattens (opened : Joint → Prop) (draft draft' : Draft) : Prop where
  name : draft'.name = draft.name
  rules : List.Forall₂ (fun rule rule' : String × Matcher => rule'.1 = rule.1 ∧
    Relation.ReflGen (Matcher.Flattens opened) rule.2 rule'.2) draft.rules draft'.rules
  root : draft'.root = draft.root
  maxNesting : draft'.maxNesting = draft.maxNesting

theorem rootId_eq_ok_iff {draft : Draft} {root : Fin draft.rules.length} :
    draft.rootId = .ok root ↔
      ∃ name, draft.root.or (Entries.names draft.rules).head? = some name ∧
        draft.find? name = some root := by
  have first : draft.rules.head?.map (·.1) = (Entries.names draft.rules).head? := by
    rw [Entries.names, List.head?_map]
  rw [rootId, first]
  cases draft.root.or (Entries.names draft.rules).head? with
  | none => simp
  | some name => cases found : draft.find? name <;> simp [found]

variable {read : CharClass.Reader} {draft draft' : Draft} {grammar : Grammar}

/-- What is known of a draft that was built, with its rules counted in another way. -/
theorem exists_of_build?_of_length (width : draft.rules.length = size)
    (built : draft.build? read = some (.ok grammar)) :
    ∃ (rules : RuleTable size) (root : Fin size) (facts : FactTable size),
      (Entries.names draft.rules).Nodup ∧ Matcher.undefinedReference? draft.rules = none ∧
      draft.rootId = .ok (root.cast width.symm) ∧
      (∀ id, (rules.get id).name = (draft.rules.get (id.cast width.symm)).1 ∧
        (draft.rules.get (id.cast width.symm)).2.compile read
            (fun name => (draft.find? name).map (Fin.cast width))
            (draft.rules.get (id.cast width.symm)).1 =
          .ok (rules.get id).body) ∧
      rules.facts? = some facts ∧ check rules facts = .ok () ∧
      grammar = ⟨draft.name, size, rules.marked facts, root, draft.maxNesting⟩ := by
  subst width
  obtain ⟨rules, root, facts, resolved, settled, checked, rfl⟩ := exists_of_build? built
  obtain ⟨distinct, defined, rooted, compiled⟩ := resolve_eq_ok.mp resolved
  refine ⟨rules, root, facts, distinct, defined, rooted, ?_, settled, checked, rfl⟩
  simpa using compile_eq_ok.mp compiled

namespace Flattens

theorem names (flattens : draft.Flattens opened draft') :
    Entries.names draft'.rules = Entries.names draft.rules := by
  have each : List.Forall₂ (· = ·) (Entries.names draft'.rules) (Entries.names draft.rules) :=
    List.forall₂_map_left_iff.mpr
      (List.forall₂_map_right_iff.mpr (flattens.rules.flip.imp fun _ _ same => same.1))
  rwa [List.forall₂_eq_eq_eq] at each

theorem width (flattens : draft.Flattens opened draft') :
    draft'.rules.length = draft.rules.length :=
  flattens.rules.length_eq.symm

theorem rule (flattens : draft.Flattens opened draft') (id : Fin draft.rules.length) :
    (draft'.rules.get (id.cast flattens.width.symm)).1 = (draft.rules.get id).1 ∧
      Relation.ReflGen (Matcher.Flattens opened) (draft.rules.get id).2
        (draft'.rules.get (id.cast flattens.width.symm)).2 :=
  (List.forall₂_iff_get.mp flattens.rules).2 id id.isLt _

theorem find?_eq (flattens : draft.Flattens opened draft')
    (distinct : (Entries.names draft.rules).Nodup) :
    (fun name => (draft'.find? name).map (Fin.cast flattens.width)) = draft.find? :=
  (@find?_places draft' draft (finCongr flattens.width) (fun _ => (flattens.rule _).1.symm)
    (flattens.names ▸ distinct) distinct).symm

theorem references (flattens : draft.Flattens opened draft')
    (defined : Matcher.undefinedReference? draft'.rules = none) :
    Matcher.undefinedReference? draft.rules = none := by
  rw [Matcher.undefinedReference?_eq_none, flattens.names] at defined
  rw [Matcher.undefinedReference?_eq_none]
  intro rule member
  obtain ⟨id, rfl⟩ := List.mem_iff_get.mp member
  have there := defined _ (List.get_mem draft'.rules (id.cast flattens.width.symm))
  have same := eq_of_reflGen Matcher.references (flattens.rule id).2 fun step => step.references
  rwa [same] at there

theorem rootId_eq_ok (flattens : draft.Flattens opened draft')
    (distinct : (Entries.names draft.rules).Nodup) {root : Fin draft.rules.length}
    (rooted : draft'.rootId = .ok (root.cast flattens.width.symm)) :
    draft.rootId = .ok root := by
  rw [rootId_eq_ok_iff, flattens.root, flattens.names] at rooted
  obtain ⟨name, chosen, found⟩ := rooted
  refine rootId_eq_ok_iff.mpr ⟨name, chosen, ?_⟩
  rw [← congrFun (flattens.find?_eq distinct) name]
  simp [found]

/-- From the rules of the flattened draft, with their references led back, to those of the draft. -/
theorem compile_eq_ok (flattens : draft.Flattens opened draft')
    (distinct : (Entries.names draft.rules).Nodup) {rules' : RuleTable draft.rules.length}
    (compiled' : ∀ id,
      (rules'.get id).name = (draft'.rules.get (id.cast flattens.width.symm)).1 ∧
        (draft'.rules.get (id.cast flattens.width.symm)).2.compile read
            (fun name => (draft'.find? name).map (Fin.cast flattens.width))
            (draft'.rules.get (id.cast flattens.width.symm)).1 =
          .ok (rules'.get id).body) :
    ∃ rules, draft.compile read = .ok rules ∧ rules.Flattens opened rules' := by
  have each (id : Fin draft.rules.length) : ∃ body,
      (draft.rules.get id).2.compile read draft.find? (draft.rules.get id).1 = .ok body ∧
        Relation.ReflGen (Node.Flattens opened) body (rules'.get id).body := by
    obtain ⟨sameName, step⟩ := flattens.rule id
    have compiles := (compiled' id).2
    rw [flattens.find?_eq distinct, sameName] at compiles
    rcases (Relation.reflGen_iff _ _ _).mp step with same | step
    · exact ⟨_, same ▸ compiles, .refl⟩
    · obtain ⟨body, compiles, step⟩ := step.compile compiles
      exact ⟨body, compiles, .single step⟩
  choose bodies compiles steps using each
  let rules : RuleTable draft.rules.length :=
    .ofFn fun id => ⟨(draft.rules.get id).1, bodies id⟩
  have get_rules (id : Fin draft.rules.length) :
      rules.get id = ⟨(draft.rules.get id).1, bodies id⟩ := Vector.getElem_ofFn id.isLt
  refine ⟨rules, Draft.compile_eq_ok.mpr fun id => ?_, fun id => ?_⟩
  · rw [get_rules id]
    exact ⟨rfl, compiles id⟩
  · rw [get_rules id]
    exact ⟨(compiled' id).1.trans (flattens.rule id).1, steps id⟩

/-- A draft is accepted if a flattened form of it is. -/
theorem exists_grammar (flattens : draft.Flattens opened draft') {grammar' : Grammar}
    (built' : draft'.build? read = some (.ok grammar')) :
    ∃ grammar, draft.build? read = some (.ok grammar) ∧ grammar.Flattens opened grammar' := by
  obtain ⟨rules', root, facts, distinct, defined, rooted, compiled', settled', checked', rfl⟩ :=
    exists_of_build?_of_length flattens.width built'
  rw [flattens.names] at distinct
  obtain ⟨rules, compiled, tables⟩ := flattens.compile_eq_ok distinct compiled'
  have resolved : draft.resolve read = .ok (rules, root) :=
    resolve_eq_ok.mpr
      ⟨distinct, flattens.references defined, flattens.rootId_eq_ok distinct rooted, compiled⟩
  have settled := tables.facts?_eq_some settled'
  have checked := tables.check_eq_ok settled' checked'
  refine ⟨_, build?_eq_ok resolved settled checked rfl, ?_⟩
  rw [flattens.name, flattens.maxNesting]
  exact .intro tables.marked (RuleTable.accepted_of_check settled checked)
    (RuleTable.accepted_of_check settled' checked')

end Flattens

end Draft

end Grammar

end PegText
