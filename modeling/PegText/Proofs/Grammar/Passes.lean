import PegText.Grammar
import PegText.Proofs.Grammar.Node
import Mathlib.Data.Fintype.Pi
import Mathlib.Data.Fintype.Prod
import Mathlib.Data.Fintype.Sum
import Mathlib.Data.Fintype.Pigeonhole
import Mathlib.Logic.Function.Iterate

/-!
When the passes over the facts of a rule table come to rest. The three flags of the rules only
ever rise, so they always do. The captured names need not: a sequence that turns out to give a
list takes its names back, and a name that was passed on before can go round a cycle of
references for ever. The passes come to rest exactly if no name travels in this way.
-/

namespace PegText

variable {size : Nat}

inductive Facts.Flag
  | structured
  | listed
  | nullable
  deriving DecidableEq

instance : Fintype Facts.Flag :=
  ⟨{.structured, .listed, .nullable}, by rintro ⟨⟩ <;> decide⟩

def Facts.holds (facts : Facts) : Facts.Flag → Bool
  | .structured => facts.structured
  | .listed => facts.listed
  | .nullable => facts.nullable

namespace FactTable

def flags (facts : FactTable size) : Finset (Fin size × Facts.Flag) :=
  {entry | (facts.get entry.1).holds entry.2}

def holders (facts : FactTable size) (name : String) : Finset (Fin size) :=
  {id | name ∈ (facts.get id).keys}

@[simp]
theorem mem_flags {facts : FactTable size} {id : Fin size} {flag : Facts.Flag} :
    (id, flag) ∈ facts.flags ↔ (facts.get id).holds flag = true := by
  simp [flags]

@[simp]
theorem mem_holders {facts : FactTable size} {name : String} {id : Fin size} :
    id ∈ facts.holders name ↔ name ∈ (facts.get id).keys := by
  simp [holders]

end FactTable

namespace Node

variable {facts facts' : FactTable size}

theorem isStructured_mono (raised : facts.flags ⊆ facts'.flags) (node : Node size)
    (known : node.isStructured facts = true) : node.isStructured facts' = true := by
  induction node with
  | literal | char | charClass | any | absent => simp [isStructured] at known
  | sequence parts ih | choice parts ih =>
      rw [isStructured, anyStructured_iff] at known ⊢
      obtain ⟨part, member, structured⟩ := known
      exact ⟨part, member, ih part member structured⟩
  | repetition inner _ _ _ ih =>
      rw [isStructured] at known ⊢
      exact ih known
  | capture => rfl
  | rule id =>
      have raisedId := @raised (id, .structured)
      rw [FactTable.mem_flags, FactTable.mem_flags] at raisedId
      exact raisedId known

theorem isListed_mono (raised : facts.flags ⊆ facts'.flags) (node : Node size)
    (known : node.isListed facts = true) : node.isListed facts' = true := by
  induction node with
  | literal | char | charClass | any | absent | capture => simp [isListed] at known
  | sequence parts ih =>
      rw [isListed, anyListed_iff] at known ⊢
      obtain ⟨part, member, listed⟩ := known
      exact ⟨part, member, ih part member listed⟩
  | choice branches ih =>
      rw [isListed, Bool.and_eq_true, allListed_iff] at known ⊢
      exact ⟨known.1, fun branch member => ih branch member (known.2 branch member)⟩
  | repetition inner =>
      rw [isListed] at known ⊢
      exact isStructured_mono raised inner known
  | rule id =>
      have raisedId := @raised (id, .listed)
      rw [FactTable.mem_flags, FactTable.mem_flags] at raisedId
      exact raisedId known

theorem isNullable_mono (raised : facts.flags ⊆ facts'.flags) (node : Node size)
    (known : node.isNullable facts = true) : node.isNullable facts' = true := by
  induction node with
  | literal | absent => exact known
  | char | charClass | any => simp [isNullable] at known
  | sequence parts ih =>
      rw [isNullable, allNullable_iff] at known ⊢
      exact fun part member => ih part member (known part member)
  | choice branches ih =>
      rw [isNullable, anyNullable_iff] at known ⊢
      obtain ⟨branch, member, nullable⟩ := known
      exact ⟨branch, member, ih branch member nullable⟩
  | repetition inner _ _ _ ih =>
      rw [isNullable, Bool.or_eq_true] at known ⊢
      exact known.imp_right ih
  | capture _ inner ih =>
      rw [isNullable] at known ⊢
      exact ih known
  | rule id =>
      have raisedId := @raised (id, .nullable)
      rw [FactTable.mem_flags, FactTable.mem_flags] at raisedId
      exact raisedId known

theorem holds_mono (raised : facts.flags ⊆ facts'.flags) (node : Node size) (flag : Facts.Flag)
    (known : (node.facts facts).holds flag = true) : (node.facts facts').holds flag = true := by
  cases flag with
  | structured => exact isStructured_mono raised node known
  | listed => exact isListed_mono raised node known
  | nullable => exact isNullable_mono raised node known

theorem mem_keys_mono (same : facts.flags = facts'.flags) {name : String}
    (spread : facts.holders name ⊆ facts'.holders name) (node : Node size)
    (known : name ∈ node.keys facts) : name ∈ node.keys facts' := by
  induction node with
  | literal | char | charClass | any | absent | repetition => simp [keys] at known
  | sequence parts ih =>
      rw [keys] at known ⊢
      split at known
      · simp at known
      next hidden =>
        -- flags must be the same here: a part that becomes listed hides the names again
        have shown : ¬anyListed facts' parts = true := by
          intro listed
          obtain ⟨part, member, listedPart⟩ := anyListed_iff.mp listed
          exact hidden (anyListed_iff.mpr ⟨part, member, isListed_mono same.ge part listedPart⟩)
        rw [if_neg shown, mem_keysOfAll]
        obtain ⟨part, member, captured⟩ := mem_keysOfAll.mp known
        exact ⟨part, member, ih part member captured⟩
  | choice branches ih =>
      rw [keys, mem_keysOfAll] at known ⊢
      obtain ⟨branch, member, captured⟩ := known
      exact ⟨branch, member, ih branch member captured⟩
  | capture => exact known
  | rule id =>
      have spreadId := @spread id
      rw [FactTable.mem_holders, FactTable.mem_holders] at spreadId
      exact spreadId known

end Node

namespace RuleTable

variable {rules : RuleTable size} {facts facts' : FactTable size}

theorem get_update (id other : Fin size) :
    (rules.update facts id).get other =
      if other = id then (rules.get id).body.facts facts else facts.get other := by
  change (rules.update facts id)[(other : Nat)] = if other = id then _ else facts[(other : Nat)]
  rw [update, Vector.getElem_set]
  simp only [Fin.ext_iff, eq_comm]

theorem flags_update_mono (raised : facts.flags ⊆ facts'.flags) (id : Fin size) :
    (rules.update facts id).flags ⊆ (rules.update facts' id).flags := by
  rintro ⟨other, flag⟩ member
  have known := @raised (other, flag)
  simp only [FactTable.mem_flags, get_update] at member known ⊢
  split
  next same =>
    rw [if_pos same] at member
    exact Node.holds_mono raised _ flag member
  next different =>
    rw [if_neg different] at member
    exact known member

theorem flags_pass_mono (raised : facts.flags ⊆ facts'.flags) :
    (rules.pass facts).flags ⊆ (rules.pass facts').flags := by
  rw [pass, pass]
  induction List.finRange size generalizing facts facts' with
  | nil => exact raised
  | cons id rest ih => exact ih (flags_update_mono raised id)

theorem flags_pass_congr (same : facts.flags = facts'.flags) :
    (rules.pass facts).flags = (rules.pass facts').flags :=
  (flags_pass_mono same.le).antisymm (flags_pass_mono same.ge)

theorem holders_update_mono (same : facts.flags = facts'.flags) {name : String}
    (spread : facts.holders name ⊆ facts'.holders name) (id : Fin size) :
    (rules.update facts id).holders name ⊆ (rules.update facts' id).holders name := by
  intro other member
  have known := @spread other
  simp only [FactTable.mem_holders, get_update] at member known ⊢
  split
  next same_id =>
    rw [if_pos same_id] at member
    exact Node.mem_keys_mono same spread _ member
  next different =>
    rw [if_neg different] at member
    exact known member

theorem holders_pass_mono (same : facts.flags = facts'.flags) {name : String}
    (spread : facts.holders name ⊆ facts'.holders name) :
    (rules.pass facts).holders name ⊆ (rules.pass facts').holders name := by
  rw [pass, pass]
  induction List.finRange size generalizing facts facts' with
  | nil => exact spread
  | cons id rest ih =>
      have sameUpdated : (rules.update facts id).flags = (rules.update facts' id).flags :=
        (flags_update_mono same.le id).antisymm (flags_update_mono same.ge id)
      exact ih sameUpdated (holders_update_mono same spread id)

def after (rules : RuleTable size) (passes : Nat) : FactTable size :=
  rules.pass^[passes] (bottom size)

theorem after_succ (rules : RuleTable size) (passes : Nat) :
    rules.after (passes + 1) = rules.pass (rules.after passes) :=
  Function.iterate_succ_apply' rules.pass passes (bottom size)

theorem after_add (rules : RuleTable size) (passes more : Nat) :
    rules.after (passes + more) = rules.pass^[more] (rules.after passes) := by
  rw [after, after, Nat.add_comm, Function.iterate_add_apply]

def ComesToRest (rules : RuleTable size) : Prop :=
  ∃ passes, rules.after (passes + 1) = rules.after passes

/-- One more pass gives the name to a rule and takes it from another one. -/
def Moves (rules : RuleTable size) (name : String) (passes : Nat) : Prop :=
  (∃ id, id ∉ (rules.after passes).holders name ∧
    id ∈ (rules.after (passes + 1)).holders name) ∧
  ∃ id, id ∈ (rules.after passes).holders name ∧
    id ∉ (rules.after (passes + 1)).holders name

/-- Long after the flags have come to rest, every pass still moves the name. -/
def Travels (rules : RuleTable size) (name : String) : Prop :=
  ∀ passes, 3 * size ≤ passes → rules.Moves name passes

theorem flags_bottom (size : Nat) : (bottom size).flags = ∅ := by
  ext ⟨id, flag⟩
  have unknown : (bottom size).get id = .bottom := Vector.getElem_replicate id.isLt
  cases flag <;> simp [unknown, Facts.bottom, Facts.holds]

theorem flags_after_mono (rules : RuleTable size) (passes : Nat) :
    (rules.after passes).flags ⊆ (rules.after (passes + 1)).flags := by
  induction passes with
  | zero =>
      have unknown : (rules.after 0).flags = ∅ := flags_bottom size
      rw [unknown]
      exact Finset.empty_subset _
  | succ passes ih =>
      rw [after_succ, after_succ rules (passes + 1)]
      exact flags_pass_mono ih

theorem flags_rest_or_card (rules : RuleTable size) (passes : Nat) :
    (rules.after passes).flags = (rules.after (passes + 1)).flags ∨
      passes < (rules.after (passes + 1)).flags.card := by
  induction passes with
  | zero =>
      by_cases rest : (rules.after 0).flags = (rules.after 1).flags
      · exact .inl rest
      · have grown := Finset.card_lt_card ((flags_after_mono rules 0).ssubset_of_ne rest)
        exact .inr (by omega)
  | succ passes ih =>
      by_cases rest : (rules.after (passes + 1)).flags = (rules.after (passes + 2)).flags
      · exact .inl rest
      · have raised := (flags_after_mono rules (passes + 1)).ssubset_of_ne rest
        have grown := Finset.card_lt_card raised
        rcases ih with same | many
        · refine absurd ?_ rest
          rw [after_succ, after_succ rules (passes + 1)]
          exact flags_pass_congr same
        · exact .inr (by omega)

theorem flags_card_le (facts : FactTable size) : facts.flags.card ≤ 3 * size := by
  have bound := Finset.card_le_univ facts.flags
  have flagCount : Fintype.card Facts.Flag = 3 := rfl
  rw [Fintype.card_prod, Fintype.card_fin, flagCount] at bound
  omega

/-- The flags come to rest: there are only three of them for each rule. -/
theorem flags_after_succ (rules : RuleTable size) (passes : Nat) (late : 3 * size ≤ passes) :
    (rules.after (passes + 1)).flags = (rules.after passes).flags := by
  rcases flags_rest_or_card rules passes with same | many
  · exact same.symm
  · have bound := flags_card_le (rules.after (passes + 1))
    omega

end RuleTable

end PegText
