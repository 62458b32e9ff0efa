import PegText.Proofs.Grammar.Accepted

/-!
Tables that hold the same rules in different places. A renaming leads each reference to the new
place of its rule; facts about the rules go along with it, and so does all that is said about a
node from them.
-/

namespace PegText

variable {size size' : Nat}

namespace Node

mutual

def rename (ids : Fin size → Fin size') : Node size → Node size'
  | literal text => literal text
  | char c => char c
  | charClass text accepts => charClass text accepts
  | any => any
  | sequence parts => sequence (renameAll ids parts)
  | choice branches => choice (renameAll ids branches)
  | repetition inner least most structured =>
      repetition (inner.rename ids) least most structured
  | absent inner => absent (inner.rename ids)
  | capture name inner => capture name (inner.rename ids)
  | rule id => rule (ids id)

def renameAll (ids : Fin size → Fin size') : List (Node size) → List (Node size')
  | [] => []
  | node :: rest => node.rename ids :: renameAll ids rest

end

end Node

def Rule.rename (ids : Fin size → Fin size') (rule : Rule size) : Rule size' :=
  ⟨rule.name, rule.body.rename ids⟩

def FactTable.along (facts' : FactTable size') (ids : Fin size → Fin size') : FactTable size :=
  Vector.ofFn fun id => facts'.get (ids id)

@[simp]
theorem FactTable.get_along (facts' : FactTable size') (ids : Fin size → Fin size')
    (id : Fin size) : (facts'.along ids).get id = facts'.get (ids id) :=
  Vector.getElem_ofFn id.isLt

namespace Node

attribute [local simp] rename renameAll

variable {ids : Fin size → Fin size'} {facts' : FactTable size'}

/-- What is put together from all nodes of a list is the same after renaming if it is for each. -/
theorem renameAll_congr {α β : Type} {of' : Node size' → β} {of : Node size → β}
    (ofAll' : List (Node size') → α) (ofAll : List (Node size) → α) (combine : β → α → α)
    (nil : ofAll' [] = ofAll [])
    (cons' : ∀ node rest, ofAll' (node :: rest) = combine (of' node) (ofAll' rest))
    (cons : ∀ node rest, ofAll (node :: rest) = combine (of node) (ofAll rest))
    {all : List (Node size)} (same : ∀ node ∈ all, of' (node.rename ids) = of node) :
    ofAll' (renameAll ids all) = ofAll all := by
  induction all with
  | nil => exact nil
  | cons node rest ih =>
      obtain ⟨here, behind⟩ := List.forall_mem_cons.mp same
      rw [renameAll, cons', cons, here, ih behind]

theorem renameAll_renameAll {back : Fin size' → Fin size} {nodes : List (Node size)}
    (each : ∀ node ∈ nodes, (node.rename ids).rename back = node) :
    renameAll back (renameAll ids nodes) = nodes := by
  induction nodes with
  | nil => rfl
  | cons node rest ih =>
      obtain ⟨here, behind⟩ := List.forall_mem_cons.mp each
      rw [renameAll, renameAll, here, ih behind]

theorem rename_rename_of_leftInverse {back : Fin size' → Fin size}
    (inverse : Function.LeftInverse back ids) (node : Node size) :
    (node.rename ids).rename back = node := by
  induction node with
  | literal | char | charClass | any => rfl
  | sequence parts ih | choice parts ih => rw [rename, rename, renameAll_renameAll ih]
  | repetition _ _ _ _ ih | absent _ ih | capture _ _ ih => rw [rename, rename, ih]
  | rule id => rw [rename, rename, inverse id]

@[simp]
theorem isStructured_rename (node : Node size) :
    (node.rename ids).isStructured facts' = node.isStructured (facts'.along ids) := by
  induction node with
  | literal | char | charClass | any | absent | capture => rfl
  | sequence parts ih | choice parts ih =>
      exact renameAll_congr (anyStructured facts') (anyStructured (facts'.along ids)) or rfl
        (fun _ _ => rfl) (fun _ _ => rfl) ih
  | repetition _ _ _ _ ih => exact ih
  | rule id => simp [isStructured]

@[simp]
theorem isListed_rename (node : Node size) :
    (node.rename ids).isListed facts' = node.isListed (facts'.along ids) := by
  induction node with
  | literal | char | charClass | any | absent | capture => rfl
  | sequence parts ih =>
      exact renameAll_congr (anyListed facts') (anyListed (facts'.along ids)) or rfl
        (fun _ _ => rfl) (fun _ _ => rfl) ih
  | choice branches ih =>
      have same := renameAll_congr (allListed facts') (allListed (facts'.along ids)) and rfl
        (fun _ _ => rfl) (fun _ _ => rfl) ih
      rw [rename, isListed, isListed, same]
      cases branches <;> rfl
  | repetition inner => exact inner.isStructured_rename
  | rule id => simp [isListed]

@[simp]
theorem keys_rename (node : Node size) :
    (node.rename ids).keys facts' = node.keys (facts'.along ids) := by
  induction node with
  | literal | char | charClass | any | absent | repetition | capture => rfl
  | sequence parts ih =>
      have listed := renameAll_congr (anyListed facts') (anyListed (facts'.along ids)) or rfl
        (fun _ _ => rfl) (fun _ _ => rfl) fun part (_ : part ∈ parts) => part.isListed_rename
      have shown := renameAll_congr (keysOfAll facts') (keysOfAll (facts'.along ids)) Names.union
        rfl (fun _ _ => rfl) (fun _ _ => rfl) ih
      rw [rename, keys, keys, listed, shown]
  | choice branches ih =>
      exact renameAll_congr (keysOfAll facts') (keysOfAll (facts'.along ids)) Names.union rfl
        (fun _ _ => rfl) (fun _ _ => rfl) ih
  | rule id => simp [keys]

@[simp]
theorem isNullable_rename (node : Node size) :
    (node.rename ids).isNullable facts' = node.isNullable (facts'.along ids) := by
  induction node with
  | literal | char | charClass | any | absent => rfl
  | sequence parts ih =>
      exact renameAll_congr (allNullable facts') (allNullable (facts'.along ids)) and rfl
        (fun _ _ => rfl) (fun _ _ => rfl) ih
  | choice branches ih =>
      exact renameAll_congr (anyNullable facts') (anyNullable (facts'.along ids)) or rfl
        (fun _ _ => rfl) (fun _ _ => rfl) ih
  | repetition _ _ _ _ ih => rw [rename, isNullable, isNullable, ih]
  | capture _ _ ih => exact ih
  | rule id => simp [isNullable]

theorem facts_rename (node : Node size) :
    (node.rename ids).facts facts' = node.facts (facts'.along ids) := by
  simp [Node.facts]

theorem leftCalls_rename (node : Node size) :
    (node.rename ids).leftCalls facts' = (node.leftCalls (facts'.along ids)).map ids := by
  induction node with
  | literal | char | charClass | any | rule => rfl
  | sequence parts ih =>
      rw [rename, leftCalls, leftCalls]
      induction parts with
      | nil => rfl
      | cons part rest ihRest =>
          obtain ⟨here, behind⟩ := List.forall_mem_cons.mp ih
          rw [renameAll, leftCallsOfSequence, leftCallsOfSequence, here, isNullable_rename,
            ihRest behind, List.map_append]
          split <;> rfl
  | choice branches ih =>
      rw [rename, leftCalls, leftCalls]
      induction branches with
      | nil => rfl
      | cons branch rest ihRest =>
          obtain ⟨here, behind⟩ := List.forall_mem_cons.mp ih
          rw [renameAll, leftCallsOfAll, leftCallsOfAll, here, ihRest behind, List.map_append]
  | repetition _ _ _ _ ih | absent _ ih | capture _ _ ih => exact ih

theorem clash?_rename (node : Node size) :
    (node.rename ids).clash? facts' = node.clash? (facts'.along ids) := by
  induction node with
  | literal | char | charClass | any | rule => rfl
  | sequence parts ih =>
      have turns := renameAll_congr (keysInTurn facts') (keysInTurn (facts'.along ids)) (· ++ ·)
        rfl (fun _ _ => List.flatMap_cons) (fun _ _ => List.flatMap_cons)
        fun part (_ : part ∈ parts) => part.keys_rename
      have inside := renameAll_congr (clashOfAll? facts') (clashOfAll? (facts'.along ids)) Option.or
        rfl (fun _ _ => rfl) (fun _ _ => rfl) ih
      rw [rename, clash?, clash?, turns, inside]
  | choice branches ih =>
      exact renameAll_congr (clashOfAll? facts') (clashOfAll? (facts'.along ids)) Option.or rfl
        (fun _ _ => rfl) (fun _ _ => rfl) ih
  | repetition _ _ _ _ ih | absent _ ih | capture _ _ ih => exact ih

/-! Two fact tables with the same flags can differ in names only, which show in the keys alone. -/

variable {facts facts₂ : FactTable size}

theorem isStructured_congr (same : facts.flags = facts₂.flags) (node : Node size) :
    node.isStructured facts = node.isStructured facts₂ :=
  Bool.eq_iff_iff.mpr ⟨isStructured_mono same.le node, isStructured_mono same.ge node⟩

theorem isNullable_congr (same : facts.flags = facts₂.flags) (node : Node size) :
    node.isNullable facts = node.isNullable facts₂ :=
  Bool.eq_iff_iff.mpr ⟨isNullable_mono same.le node, isNullable_mono same.ge node⟩

theorem leftCalls_congr (same : facts.flags = facts₂.flags) (node : Node size) :
    node.leftCalls facts = node.leftCalls facts₂ := by
  induction node with
  | literal | char | charClass | any | rule => rfl
  | sequence parts ih =>
      rw [leftCalls, leftCalls]
      induction parts with
      | nil => rfl
      | cons part rest ihRest =>
          obtain ⟨here, behind⟩ := List.forall_mem_cons.mp ih
          rw [leftCallsOfSequence, leftCallsOfSequence, here, isNullable_congr same,
            ihRest behind]
  | choice branches ih =>
      rw [leftCalls, leftCalls]
      induction branches with
      | nil => rfl
      | cons branch rest ihRest =>
          obtain ⟨here, behind⟩ := List.forall_mem_cons.mp ih
          rw [leftCallsOfAll, leftCallsOfAll, here, ihRest behind]
  | repetition _ _ _ _ ih | absent _ ih | capture _ _ ih => exact ih

theorem markAll_renameAll {nodes : List (Node size)}
    (each : ∀ node ∈ nodes,
      (node.rename ids).markStructured facts' = (node.markStructured facts).rename ids) :
    markAll facts' (renameAll ids nodes) = renameAll ids (markAll facts nodes) := by
  induction nodes with
  | nil => rfl
  | cons node rest ih =>
      obtain ⟨here, behind⟩ := List.forall_mem_cons.mp each
      rw [renameAll, markAll, markAll, renameAll, here, ih behind]

theorem markStructured_rename (same : facts.flags = (facts'.along ids).flags)
    (node : Node size) :
    (node.rename ids).markStructured facts' = (node.markStructured facts).rename ids := by
  induction node with
  | literal | char | charClass | any | rule => rfl
  | sequence parts ih | choice parts ih =>
      rw [rename, markStructured, markStructured, rename, markAll_renameAll ih]
  | repetition inner _ _ _ ih =>
      rw [rename, markStructured, markStructured, rename, ih, isStructured_rename,
        isStructured_congr same]
  | absent _ ih | capture _ _ ih =>
      rw [rename, markStructured, markStructured, rename, ih]

variable (same : facts.flags = facts₂.flags)
  (fewer : ∀ id, (facts.get id).keys ⊆ (facts₂.get id).keys)

include same fewer

theorem keys_subset_of_fewer (node : Node size) : node.keys facts ⊆ node.keys facts₂ := by
  intro name known
  refine mem_keys_mono same (fun id held => ?_) node known
  rw [FactTable.mem_holders] at held ⊢
  exact fewer id held

/-- With the same flags and fewer names held by the rules, no sequence captures a name twice that
did not before. -/
theorem clash?_eq_none_of_fewer (sorted : ∀ id, Names.Sorted (facts.get id).keys)
    (sorted₂ : ∀ id, Names.Sorted (facts₂.get id).keys) {node : Node size}
    (distinct : node.clash? facts₂ = none) : node.clash? facts = none := by
  induction node with
  | literal | char | charClass | any | rule => rfl
  | sequence parts ih =>
      rw [clash?, Option.or_eq_none_iff, clashOfAll?_eq_none] at distinct ⊢
      refine ⟨?_, fun part member => ih part member (distinct.2 part member)⟩
      have sublist : (keysInTurn facts parts).Sublist (keysInTurn facts₂ parts) :=
        List.Sublist.flatMap_right parts fun part _ =>
          (sorted_keys sorted part).sublist (sorted_keys sorted₂ part)
            (keys_subset_of_fewer same fewer part)
      have once := (Names.firstRepeated?_eq_none.mp distinct.1).1
      exact Names.firstRepeated?_eq_none.mpr ⟨once.sublist sublist, by simp⟩
  | choice branches ih =>
      rw [clash?, clashOfAll?_eq_none] at distinct ⊢
      exact fun branch member => ih branch member (distinct branch member)
  | repetition _ _ _ _ ih | absent _ ih | capture _ _ ih => exact ih distinct

end Node

end PegText
