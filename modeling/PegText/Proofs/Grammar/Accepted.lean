import PegText.Proofs.Grammar.CallGraph
import PegText.Proofs.Grammar.Rest

/-!
What is known of every grammar that was built: the facts about its rules satisfy the equations of
all rules at once, its repetitions are marked by them, no sequence captures a name twice, and no
rule reaches itself before anything is consumed.
-/

namespace PegText

variable {size : Nat} {read : CharClass.Reader}

theorem forall₂_mapM {α β ε : Type} {step : α → Except ε β} {all : List α} {results : List β} :
    all.mapM step = .ok results ↔
      List.Forall₂ (fun one result => step one = .ok result) all results := by
  induction all generalizing results with
  | nil =>
      rw [List.forall₂_nil_left_iff, List.mapM_nil]
      exact ⟨fun done => (Except.ok.inj done).symm, fun none => none ▸ rfl⟩
  | cons one rest ih =>
      rw [List.mapM_cons]
      constructor
      · intro done
        cases first : step one with
        | error failure =>
            rw [first] at done
            cases done
        | ok result =>
            cases later : rest.mapM step with
            | error failure =>
                rw [first, later] at done
                cases done
            | ok others =>
                rw [first, later] at done
                cases done
                exact .cons first (ih.mp later)
      · intro each
        cases each with
        | cons first later =>
            rw [first, ih.mpr later]
            rfl

theorem mapM_ofFn {β ε : Type} {count : Nat} {α : Type} {step : α → Except ε β}
    {of : Fin count → α} {results : Vector β count} :
    (Vector.ofFn of).mapM step = .ok results ↔ ∀ index, step (of index) = .ok (results.get index) := by
  have inArray := @Vector.toArray_mapM _ _ _ _ _ _ step (Vector.ofFn of)
  have inList := @Array.toList_mapM _ _ _ _ _ step (Vector.ofFn of).toArray
  rw [← inArray] at inList
  have each : List.Forall₂ (fun one result => step one = .ok result)
      (Vector.ofFn of).toArray.toList results.toArray.toList ↔
        ∀ index, step (of index) = .ok (results.get index) := by
    rw [List.forall₂_iff_get]
    simp [Vector.get, Fin.forall_iff]
  rw [← each, ← forall₂_mapM, ← inList]
  cases made : (Vector.ofFn of).mapM step with
  | error failure => exact ⟨nofun, nofun⟩
  | ok others =>
      constructor
      · intro same
        rw [Except.ok.inj same]
        rfl
      · intro same
        have sameList : others.toArray.toList = results.toArray.toList := Except.ok.inj same
        rw [Vector.toArray_inj.mp (Array.toList_inj.mp sameList)]

theorem Grammar.Draft.compile_eq_ok {draft : Draft} {rules : RuleTable draft.rules.length} :
    draft.compile read = .ok rules ↔
      ∀ id, (rules.get id).name = (draft.rules.get id).1 ∧
        (draft.rules.get id).2.compile read draft.find? (draft.rules.get id).1 =
          .ok (rules.get id).body := by
  rw [compile, mapM_ofFn]
  refine forall_congr' fun id => ?_
  cases node : (draft.rules.get id).2.compile read draft.find? (draft.rules.get id).1 with
  | error cause => exact ⟨nofun, nofun⟩
  | ok body =>
      constructor
      · intro same
        rw [← Except.ok.inj same]
        exact ⟨rfl, rfl⟩
      · rintro ⟨sameName, sameBody⟩
        rw [Except.map, ← sameName, Except.ok.inj sameBody]

theorem Grammar.Draft.resolve_eq_ok {draft : Draft} {rules : RuleTable draft.rules.length}
    {root : Fin draft.rules.length} :
    draft.resolve read = .ok (rules, root) ↔
      (Entries.names draft.rules).Nodup ∧ Matcher.undefinedReference? draft.rules = none ∧
        draft.rootId = .ok root ∧ draft.compile read = .ok rules := by
  have distinct : Names.firstRepeated? [] (Entries.names draft.rules) = none ↔
      (Entries.names draft.rules).Nodup := by
    rw [Names.firstRepeated?_eq_none]
    simp
  rw [← distinct, resolve]
  cases Names.firstRepeated? [] (Entries.names draft.rules) with
  | some name => simp
  | none =>
      cases Matcher.undefinedReference? draft.rules with
      | some cause => simp
      | none =>
          cases draft.rootId with
          | error diagnostic => simp
          | ok root =>
              cases draft.compile read <;> simp [and_comm]

/-! Marking the repetitions of a node changes no fact about it. -/

namespace Node

attribute [local simp] markStructured markAll nodes

variable {facts marks : FactTable size}

theorem markAll_congr {α β : Type} {of : Node size → β} {ofAll : List (Node size) → α}
    (combine : β → α → α)
    (cons : ∀ node rest, ofAll (node :: rest) = combine (of node) (ofAll rest))
    {all : List (Node size)} (same : ∀ node ∈ all, of (node.markStructured marks) = of node) :
    ofAll (markAll marks all) = ofAll all := by
  induction all with
  | nil => rfl
  | cons node rest ih =>
      rw [markAll, cons, cons, same node List.mem_cons_self,
        ih fun node member => same node (List.mem_cons_of_mem _ member)]

@[simp]
theorem isStructured_markStructured (node : Node size) :
    (node.markStructured marks).isStructured facts = node.isStructured facts := by
  induction node with
  | literal | char | charClass | any | absent | capture | rule => rfl
  | sequence parts ih | choice parts ih => exact markAll_congr or (fun _ _ => rfl) ih
  | repetition _ _ _ _ ih => exact ih

@[simp]
theorem isListed_markStructured (node : Node size) :
    (node.markStructured marks).isListed facts = node.isListed facts := by
  induction node with
  | literal | char | charClass | any | absent | capture | rule => rfl
  | sequence parts ih => exact markAll_congr or (fun _ _ => rfl) ih
  | choice branches ih =>
      have same : allListed facts (markAll marks branches) = allListed facts branches :=
        markAll_congr and (fun _ _ => rfl) ih
      rw [markStructured, isListed, isListed, same]
      cases branches <;> rfl
  | repetition inner => exact inner.isStructured_markStructured

@[simp]
theorem keys_markStructured (node : Node size) :
    (node.markStructured marks).keys facts = node.keys facts := by
  induction node with
  | literal | char | charClass | any | absent | repetition | capture | rule => rfl
  | sequence parts ih =>
      have listed : anyListed facts (markAll marks parts) = anyListed facts parts :=
        markAll_congr or (fun _ _ => rfl) fun part _ => part.isListed_markStructured
      have shown : keysOfAll facts (markAll marks parts) = keysOfAll facts parts :=
        markAll_congr Names.union (fun _ _ => rfl) ih
      rw [markStructured, keys, keys, listed, shown]
  | choice branches ih => exact markAll_congr Names.union (fun _ _ => rfl) ih

@[simp]
theorem isNullable_markStructured (node : Node size) :
    (node.markStructured marks).isNullable facts = node.isNullable facts := by
  induction node with
  | literal | char | charClass | any | absent | rule => rfl
  | sequence parts ih => exact markAll_congr and (fun _ _ => rfl) ih
  | choice branches ih => exact markAll_congr or (fun _ _ => rfl) ih
  | repetition _ _ _ _ ih => rw [markStructured, isNullable, isNullable, ih]
  | capture _ _ ih => exact ih

theorem facts_markStructured (node : Node size) :
    (node.markStructured marks).facts facts = node.facts facts := by
  simp [Node.facts]

@[simp]
theorem leftCalls_markStructured (node : Node size) :
    (node.markStructured marks).leftCalls facts = node.leftCalls facts := by
  induction node with
  | literal | char | charClass | any | rule => rfl
  | sequence parts ih =>
      have same : ∀ part ∈ parts, ((part.markStructured marks).leftCalls facts,
          (part.markStructured marks).isNullable facts) =
            (part.leftCalls facts, part.isNullable facts) := by
        intro part member
        rw [ih part member, isNullable_markStructured]
      exact @markAll_congr size marks _ _ (fun part => (part.leftCalls facts, part.isNullable facts))
        (leftCallsOfSequence facts) (fun first rest => first.1 ++ if first.2 then rest else [])
        (fun _ _ => rfl) _ same
  | choice branches ih => exact markAll_congr (· ++ ·) (fun _ _ => rfl) ih
  | repetition _ _ _ _ ih | absent _ ih | capture _ _ ih => exact ih

@[simp]
theorem clash?_markStructured (node : Node size) :
    (node.markStructured marks).clash? facts = node.clash? facts := by
  induction node with
  | literal | char | charClass | any | rule => rfl
  | sequence parts ih =>
      have turns : keysInTurn facts (markAll marks parts) = keysInTurn facts parts :=
        markAll_congr (· ++ ·) (fun _ _ => List.flatMap_cons) fun part _ => part.keys_markStructured
      have inside : clashOfAll? facts (markAll marks parts) = clashOfAll? facts parts :=
        markAll_congr Option.or (fun _ _ => rfl) ih
      rw [markStructured, clash?, clash?, turns, inside]
  | choice branches ih => exact markAll_congr Option.or (fun _ _ => rfl) ih
  | repetition _ _ _ _ ih | absent _ ih | capture _ _ ih => exact ih

@[simp]
theorem captureNames_markStructured (node : Node size) :
    (node.markStructured marks).captureNames = node.captureNames := by
  induction node with
  | literal | char | charClass | any | rule => rfl
  | sequence parts ih | choice parts ih => exact markAll_congr Names.union (fun _ _ => rfl) ih
  | repetition _ _ _ _ ih | absent _ ih => exact ih
  | capture _ _ ih => rw [markStructured, captureNames, captureNames, ih]

theorem markAll_eq_map (all : List (Node size)) :
    markAll marks all = all.map (markStructured marks) := by
  induction all with
  | nil => rfl
  | cons node rest ih => rw [markAll, List.map_cons, ih]

theorem mem_markAll {node : Node size} {all : List (Node size)} :
    node ∈ markAll facts all ↔ ∃ unmarked ∈ all, unmarked.markStructured facts = node := by
  rw [markAll_eq_map, List.mem_map]

def Marked (facts : FactTable size) (node : Node size) : Prop :=
  ∀ inner least most structured, repetition inner least most structured ∈ node.nodes →
    structured = inner.isStructured facts

theorem marked_markStructured (node : Node size) : Marked facts (node.markStructured facts) := by
  intro inside least most structured member
  induction node with
  | literal | char | charClass | any | rule => simp at member
  | sequence parts ih | choice parts ih =>
      rw [markStructured, nodes, List.mem_cons, mem_nodesOfAll] at member
      rcases member with same | ⟨marked, inParts, inPart⟩
      · cases same
      · obtain ⟨part, inUnmarked, rfl⟩ := mem_markAll.mp inParts
        exact ih part inUnmarked inPart
  | repetition inner _ _ _ ih =>
      rw [markStructured, nodes, List.mem_cons] at member
      rcases member with same | inInner
      · injection same with sameInner _ _ sameMark
        rw [sameInner, sameMark, isStructured_markStructured]
      · exact ih inInner
  | absent _ ih | capture _ _ ih =>
      rw [markStructured, nodes, List.mem_cons] at member
      rcases member with same | inInner
      · cases same
      · exact ih inInner

end Node

namespace RuleTable

section

variable {rules : RuleTable size} {facts : FactTable size} {ids : List (Fin size)}

theorem get_foldl_update (rules : RuleTable size) {other : Fin size} (absent : other ∉ ids)
    (facts : FactTable size) :
    (ids.foldl rules.update facts).get other = facts.get other := by
  induction ids generalizing facts with
  | nil => rfl
  | cons first ids ih =>
      rw [List.mem_cons, not_or] at absent
      rw [List.foldl_cons, ih absent.2, get_update, if_neg absent.1]

theorem facts_body_of_foldl (unique : ids.Nodup) (same : ids.foldl rules.update facts = facts) :
    ∀ id ∈ ids, (rules.get id).body.facts facts = facts.get id := by
  induction ids with
  | nil => exact List.forall_mem_nil _
  | cons first ids ih =>
      obtain ⟨absent, uniqueLater⟩ := List.nodup_cons.mp unique
      rw [List.foldl_cons] at same
      -- no later update touches the first rule again, so its own has left the table as it was
      have here : (rules.get first).body.facts facts = facts.get first := by
        have final := get_foldl_update rules absent (rules.update facts first)
        rw [same, get_update, if_pos rfl] at final
        exact final.symm
      have still : rules.update facts first = facts := by
        refine FactTable.ext fun other => ?_
        rw [get_update]
        split
        next equal => rw [equal, here]
        next different => rfl
      rw [still] at same
      exact List.forall_mem_cons.mpr ⟨here, ih uniqueLater same⟩

theorem facts_body_of_pass (rest : rules.pass facts = facts) (id : Fin size) :
    (rules.get id).body.facts facts = facts.get id :=
  facts_body_of_foldl (List.nodup_finRange size) rest id (List.mem_finRange id)

end

/-- What holds between the rules of a grammar and the facts they were checked with. -/
structure Accepted (rules : RuleTable size) (facts : FactTable size) : Prop where
  facts_body : ∀ id, (rules.get id).body.facts facts = facts.get id
  marked : ∀ id, (rules.get id).body.Marked facts
  distinct : ∀ id, (rules.get id).body.clash? facts = none
  noLeftRecursion : ∀ id,
    ¬Relation.TransGen (fun source target => target ∈ (rules.get source).body.leftCalls facts) id id

def marked (rules : RuleTable size) (facts : FactTable size) : RuleTable size :=
  rules.map fun rule => { rule with body := rule.body.markStructured facts }

theorem get_marked (rules : RuleTable size) (facts : FactTable size) (id : Fin size) :
    (rules.marked facts).get id =
      { rules.get id with body := (rules.get id).body.markStructured facts } :=
  Vector.getElem_map _ id.isLt

theorem body_marked (rules : RuleTable size) (facts : FactTable size) (id : Fin size) :
    ((rules.marked facts).get id).body = (rules.get id).body.markStructured facts := by
  rw [get_marked]

theorem captureNames_marked (rules : RuleTable size) (marks : FactTable size) :
    (rules.marked marks).captureNames = rules.captureNames := by
  have bodies : (rules.marked marks).toList.map Rule.body =
      Node.markAll marks (rules.toList.map Rule.body) := by
    simp [marked, Node.markAll_eq_map, Vector.toList_map, Function.comp_def]
  rw [captureNames, captureNames, bodies]
  apply Node.markAll_congr Names.union
  · intro node rest
    rfl
  · intro node _
    exact node.captureNames_markStructured

theorem pass_marked (rules : RuleTable size) (marks : FactTable size) :
    (rules.marked marks).pass = rules.pass := by
  funext facts
  have same : (rules.marked marks).update = rules.update := by
    funext facts id
    rw [update, update, body_marked, Node.facts_markStructured]
  rw [pass, pass, same]

theorem settle?_marked (rules : RuleTable size) (marks : FactTable size) (limit : Nat) :
    (rules.marked marks).settle? limit = rules.settle? limit := by
  induction limit with
  | zero => rfl
  | succ limit ih =>
      funext facts
      rw [settle?, settle?, pass_marked, ih]

/-- The marks are made from the facts, and leave them as they are. -/
theorem facts?_marked (rules : RuleTable size) (marks : FactTable size) :
    (rules.marked marks).facts? = rules.facts? := by
  rw [facts?, facts?, tableCount, tableCount, captureNames_marked, settle?_marked]

theorem body_of_compile {draft : Grammar.Draft} {rules : RuleTable draft.rules.length}
    {facts : FactTable draft.rules.length} (compiled : draft.compile read = .ok rules)
    {id : Fin draft.rules.length} {node marked : Node draft.rules.length}
    (compiles : (draft.rules.get id).2.compile read draft.find? (draft.rules.get id).1 = .ok node)
    (same : node.markStructured facts = marked) : ((rules.marked facts).get id).body = marked := by
  rw [(Grammar.Draft.compile_eq_ok.mp compiled id).2] at compiles
  rw [body_marked, Except.ok.inj compiles, same]

theorem duplicateCapture?_eq_none {rules : RuleTable size} {facts : FactTable size} :
    rules.duplicateCapture? facts = none ↔ ∀ id, (rules.get id).body.clash? facts = none := by
  rw [duplicateCapture?, List.findSome?_eq_none_iff]
  simp only [Option.map_eq_none_iff]
  constructor
  · intro none id
    exact none _ (Vector.mem_toList_iff.mpr (Vector.getElem_mem id.isLt))
  · intro none rule member
    obtain ⟨index, bound, same⟩ := Vector.mem_iff_getElem.mp (Vector.mem_toList_iff.mp member)
    exact same ▸ none ⟨index, bound⟩

def LeftAcyclic (rules : RuleTable size) (facts : FactTable size) : Prop :=
  ∀ id,
    ¬Relation.TransGen (fun source target => target ∈ (rules.get source).body.leftCalls facts) id id

theorem leftRecursion?_eq_none {rules : RuleTable size} {facts : FactTable size} :
    rules.leftRecursion? facts = none ↔ rules.LeftAcyclic facts := by
  have calls : (rules.leftCalls facts).Calls =
      fun source target => target ∈ (rules.get source).body.leftCalls facts := by
    funext source target
    simp [CallGraph.Calls, leftCalls]
  rw [leftRecursion?, List.findSome?_eq_none_iff, LeftAcyclic]
  simp only [Option.map_eq_none_iff, CallGraph.cycle?_eq_none_iff, calls, List.mem_finRange,
    true_imp_iff]

theorem check_eq_ok {rules : RuleTable size} {facts : FactTable size} :
    Grammar.Draft.check rules facts = .ok () ↔
      (∀ id, (rules.get id).body.clash? facts = none) ∧ rules.LeftAcyclic facts := by
  rw [← duplicateCapture?_eq_none, ← leftRecursion?_eq_none, Grammar.Draft.check]
  cases rules.duplicateCapture? facts with
  | some cause => simp
  | none => cases rules.leftRecursion? facts <;> simp

theorem accepted_of_check {rules : RuleTable size} {facts : FactTable size}
    (settled : rules.facts? = some facts) (checked : Grammar.Draft.check rules facts = .ok ()) :
    (rules.marked facts).Accepted facts := by
  obtain ⟨distinct, acyclic⟩ := check_eq_ok.mp checked
  refine ⟨fun id => ?_, fun id => ?_, fun id => ?_, fun id cycle => acyclic id ?_⟩
  · rw [body_marked, Node.facts_markStructured]
    exact facts_body_of_pass (pass_eq_of_facts? settled) id
  · rw [body_marked]
    exact Node.marked_markStructured _
  · rw [body_marked, Node.clash?_markStructured]
    exact distinct id
  · simpa only [body_marked, Node.leftCalls_markStructured] using cycle

end RuleTable

theorem Grammar.Draft.build?_eq_ok {draft : Draft} {rules marked : RuleTable draft.rules.length}
    {root : Fin draft.rules.length} {facts : FactTable draft.rules.length}
    (resolved : draft.resolve read = .ok (rules, root)) (settled : rules.facts? = some facts)
    (checked : check rules facts = .ok ()) (same : rules.marked facts = marked) :
    draft.build? read =
      some (.ok ⟨draft.name, draft.rules.length, marked, root, draft.maxNesting⟩) := by
  subst same
  rw [build?, resolved]
  simp only [settled, Option.map_some, checked]
  rfl

theorem Grammar.Draft.built_eq {draft : Draft} {grammar : Grammar}
    (accepted : draft.build? CharClass.read = some (.ok grammar)) : draft.built = grammar := by
  rw [built, accepted]

theorem Grammar.Draft.exists_of_build? {draft : Draft} {grammar : Grammar}
    (built : draft.build? read = some (.ok grammar)) :
    ∃ rules root facts, draft.resolve read = .ok (rules, root) ∧ rules.facts? = some facts ∧
      check rules facts = .ok () ∧
        grammar =
          ⟨draft.name, draft.rules.length, rules.marked facts, root, draft.maxNesting⟩ := by
  rw [build?] at built
  split at built
  · cases built
  next rules root resolved =>
    obtain ⟨facts, settled, outcome⟩ := Option.map_eq_some_iff.mp built
    cases checked : check rules facts with
    | error diagnostic =>
        rw [checked] at outcome
        cases outcome
    | ok done =>
        rw [checked] at outcome
        cases outcome
        exact ⟨rules, root, facts, resolved, settled, checked, rfl⟩

/-- A grammar that was built has passed all checks, with the facts that its rules settle at. -/
theorem Grammar.Draft.settled_of_build? {draft : Draft} {grammar : Grammar}
    (built : draft.build? read = some (.ok grammar)) :
    ∃ facts, grammar.rules.facts? = some facts ∧ grammar.rules.Accepted facts := by
  obtain ⟨rules, root, facts, -, settled, checked, rfl⟩ := exists_of_build? built
  exact ⟨facts, (rules.facts?_marked facts).trans settled,
    RuleTable.accepted_of_check settled checked⟩

theorem Grammar.Draft.accepted_of_build? {draft : Draft} {grammar : Grammar}
    (built : draft.build? read = some (.ok grammar)) :
    ∃ facts, grammar.rules.Accepted facts := by
  obtain ⟨facts, -, accepted⟩ := settled_of_build? built
  exact ⟨facts, accepted⟩

end PegText
