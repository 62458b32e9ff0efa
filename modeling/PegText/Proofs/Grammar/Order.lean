import PegText.Proofs.Grammar.Renaming
import Mathlib.Data.List.NodupEquivFin

/-!
The order in which the rules of a draft are written. Another order compiles to the same rules in
other places, with the same flags, so that the same rules are entered at the left. The names that
the rules hold may differ: the passes can leave a name with a rule that does not capture it, where
the rules of a cycle go on taking it from each other, and it depends on the order whether they do.
-/

namespace PegText

variable {size size' : Nat} {read : CharClass.Reader}

namespace RuleTable

def Renames (rules : RuleTable size) (ids : Fin size ≃ Fin size') (rules' : RuleTable size') :
    Prop :=
  ∀ id, rules'.get (ids id) = (rules.get id).rename ids

def Solves (rules : RuleTable size) (facts : FactTable size) : Prop :=
  ∀ id, (rules.get id).body.facts facts = facts.get id

/-- No rule holds a name without need: the other facts with these flags that satisfy the equations
of all rules name as much. -/
def Least (rules : RuleTable size) (facts : FactTable size) : Prop :=
  ∀ other, rules.Solves other → other.flags = facts.flags →
    ∀ id, (facts.get id).keys ⊆ (other.get id).keys

variable {rules : RuleTable size} {ids : Fin size ≃ Fin size'} {rules' : RuleTable size'}
  {facts : FactTable size} {facts' : FactTable size'}

theorem solves_of_facts? (settled : rules.facts? = some facts) : rules.Solves facts :=
  facts_body_of_pass (pass_eq_of_facts? settled)

theorem Solves.pass_eq (solves : rules.Solves facts) : rules.pass facts = facts := by
  rw [pass]
  induction List.finRange size with
  | nil => rfl
  | cons id rest ih =>
      have still : rules.update facts id = facts := by
        refine FactTable.ext fun other => ?_
        rw [get_update]
        split
        next same => rw [same, solves id]
        next different => rfl
      rw [List.foldl_cons, still]
      exact ih

/-- The passes start from no flags, so they end with no more of them than any solution has. -/
theorem Solves.flags_subset (solves : rules.Solves facts) {settled : FactTable size}
    (found : rules.facts? = some settled) : settled.flags ⊆ facts.flags := by
  obtain ⟨-, passes, rfl⟩ := settle?_eq_some found
  clear found
  induction passes with
  | zero =>
      have none : (bottom size).flags = ∅ := flags_bottom size
      rw [Function.iterate_zero, id_eq, none]
      exact Finset.empty_subset _
  | succ passes ih =>
      rw [Function.iterate_succ_apply', ← solves.pass_eq]
      exact flags_pass_mono ih

theorem sorted_of_facts? (settled : rules.facts? = some facts) (id : Fin size) :
    Names.Sorted (facts.get id).keys := by
  obtain ⟨-, passes, rfl⟩ := settle?_eq_some settled
  exact (canonical_after rules passes id).1

namespace Renames

theorem symm (renames : rules.Renames ids rules') : rules'.Renames ids.symm rules := by
  intro id
  obtain ⟨id, rfl⟩ := ids.surjective id
  rw [Equiv.symm_apply_apply, renames id]
  simp only [Rule.rename, Node.rename_rename_of_leftInverse ids.symm_apply_apply]

theorem solves (renames : rules.Renames ids rules') (solves : rules'.Solves facts') :
    rules.Solves (facts'.along ids) := by
  intro id
  rw [FactTable.get_along, ← solves (ids id), renames id, Rule.rename, Node.facts_rename]

theorem flags_subset (renames : rules.Renames ids rules') (settled : rules.facts? = some facts)
    (settled' : rules'.facts? = some facts') : facts.flags ⊆ (facts'.along ids).flags :=
  (renames.solves (solves_of_facts? settled')).flags_subset settled

theorem flags_eq (renames : rules.Renames ids rules') (settled : rules.facts? = some facts)
    (settled' : rules'.facts? = some facts') : facts.flags = (facts'.along ids).flags := by
  refine (renames.flags_subset settled settled').antisymm ?_
  rintro ⟨id, flag⟩ member
  have back := renames.symm.flags_subset settled' settled
  have backHere := @back (ids id, flag)
  simp only [FactTable.mem_flags, FactTable.get_along, Equiv.symm_apply_apply] at member backHere ⊢
  exact backHere member

theorem leftAcyclic (renames : rules.Renames ids rules')
    (same : facts.flags = (facts'.along ids).flags) (acyclic : rules.LeftAcyclic facts) :
    rules'.LeftAcyclic facts' := by
  intro id cycle
  refine acyclic (ids.symm id) (cycle.lift ids.symm ?_)
  intro source target call
  obtain ⟨source, rfl⟩ := ids.surjective source
  rw [renames source, Rule.rename, Node.leftCalls_rename, List.mem_map] at call
  obtain ⟨target, known, rfl⟩ := call
  have called : target ∈ (rules.get source).body.leftCalls facts := by
    rw [Node.leftCalls_congr same]
    exact known
  rw [Function.onFun, Equiv.symm_apply_apply, Equiv.symm_apply_apply]
  exact called

theorem marked (renames : rules.Renames ids rules')
    (same : facts.flags = (facts'.along ids).flags) :
    (rules.marked facts).Renames ids (rules'.marked facts') := by
  intro id
  rw [get_marked, get_marked, renames id]
  simp only [Rule.rename, Node.markStructured_rename same]

theorem check (renames : rules.Renames ids rules') (settled : rules.facts? = some facts)
    (settled' : rules'.facts? = some facts') (least : rules'.Least facts')
    (checked : Grammar.Draft.check rules facts = .ok ()) :
    Grammar.Draft.check rules' facts' = .ok () := by
  obtain ⟨distinct, acyclic⟩ := check_eq_ok.mp checked
  have same := renames.flags_eq settled settled'
  have same' := renames.symm.flags_eq settled' settled
  refine check_eq_ok.mpr ⟨fun id => ?_, renames.leftAcyclic same acyclic⟩
  have fewer := least _ (renames.symm.solves (solves_of_facts? settled)) same'.symm
  refine Node.clash?_eq_none_of_fewer same' fewer (sorted_of_facts? settled') (fun other => ?_) ?_
  · rw [FactTable.get_along]
    exact sorted_of_facts? settled _
  · rw [← Node.clash?_rename]
    have back := renames.symm id
    have body : (rules'.get id).body.rename ids.symm = (rules.get (ids.symm id)).body :=
      (congrArg Rule.body back).symm
    rw [body]
    exact distinct _

end Renames

end RuleTable

namespace Matcher

mutual

theorem compile_rename (find : String → Option (Fin size)) (ids : Fin size → Fin size')
    (owner : String) (matcher : Matcher) :
    matcher.compile read (fun name => (find name).map ids) owner =
      (matcher.compile read find owner).map (Node.rename ids) := by
  cases matcher with
  | literal | char | any => rfl
  | charClass text =>
      rw [compile, compile]
      cases read text <;> rfl
  | sequence parts | choice parts =>
      rw [compile, compile, compileAll_rename]
      cases compileAll read find owner parts <;> rfl
  | repetition inner | absent inner | capture _ inner =>
      rw [compile, compile, compile_rename]
      cases inner.compile read find owner <;> rfl
  | rule name =>
      rw [compile, compile]
      cases find name <;> rfl

theorem compileAll_rename (find : String → Option (Fin size)) (ids : Fin size → Fin size')
    (owner : String) (matchers : List Matcher) :
    compileAll read (fun name => (find name).map ids) owner matchers =
      (compileAll read find owner matchers).map (Node.renameAll ids) := by
  cases matchers with
  | nil => rfl
  | cons matcher rest =>
      rw [compileAll, compileAll, compile_rename, compileAll_rename]
      cases matcher.compile read find owner with
      | error cause => rfl
      | ok node => cases compileAll read find owner rest <;> rfl

end

theorem undefinedReference?_eq_none {rules : List (String × Matcher)} :
    undefinedReference? rules = none ↔
      ∀ rule ∈ rules, ∀ reference ∈ rule.2.references, reference ∈ Entries.names rules := by
  simp [undefinedReference?, List.findSome?_eq_none_iff, Entries.contains_iff]

end Matcher

namespace Grammar.Draft

theorem find?_eq_some {draft : Draft} (distinct : (Entries.names draft.rules).Nodup)
    {name : String} {id : Fin draft.rules.length} :
    draft.find? name = some id ↔ (draft.rules.get id).1 = name := by
  rw [find?, List.findFinIdx?_eq_some_iff]
  constructor
  · intro found
    exact beq_iff_eq.mp found.1
  · intro named
    refine ⟨beq_iff_eq.mpr named, fun earlier before same => ?_⟩
    have sameName : (draft.rules.get earlier).1 = (draft.rules.get id).1 :=
      (beq_iff_eq.mp same).trans named.symm
    have width : (Entries.names draft.rules).length = draft.rules.length := List.length_map _
    have earlierWithin : (earlier : Nat) < (Entries.names draft.rules).length := by omega
    have within : (id : Nat) < (Entries.names draft.rules).length := by omega
    have sameAt : (Entries.names draft.rules)[(earlier : Nat)] =
        (Entries.names draft.rules)[(id : Nat)] := by
      simpa [Entries.names] using sameName
    have samePlace := (List.Nodup.getElem_inj_iff distinct).mp sameAt
    omega

structure Reorders (draft draft' : Draft) : Prop where
  name : draft'.name = draft.name
  rules : draft.rules.Perm draft'.rules
  root : draft'.root = draft.root
  maxNesting : draft'.maxNesting = draft.maxNesting

theorem exists_places {rules rules' : List (String × Matcher)}
    (distinct : (Entries.names rules).Nodup) (order : rules.Perm rules') :
    ∃ ids : Fin rules.length ≃ Fin rules'.length, ∀ id, rules'.get (ids id) = rules.get id := by
  classical
  have once : rules.Nodup := .of_map _ distinct
  have once' : rules'.Nodup := order.nodup once
  let ids := ((once.getEquiv rules).trans
    (Equiv.subtypeEquivRight fun _ => order.mem_iff)).trans (once'.getEquiv rules').symm
  refine ⟨ids, fun id => ?_⟩
  have back := (once'.getEquiv rules').apply_symm_apply
    (Equiv.subtypeEquivRight (fun _ => order.mem_iff) (once.getEquiv rules id))
  exact congrArg Subtype.val back

variable {draft draft' : Draft} {ids : Fin draft.rules.length ≃ Fin draft'.rules.length}

theorem find?_places (places : ∀ id, (draft'.rules.get (ids id)).1 = (draft.rules.get id).1)
    (distinct : (Entries.names draft.rules).Nodup)
    (distinct' : (Entries.names draft'.rules).Nodup) :
    draft'.find? = fun name => (draft.find? name).map ids := by
  funext name
  refine Option.ext fun id' => ?_
  obtain ⟨id, rfl⟩ := ids.surjective id'
  rw [find?_eq_some distinct', places id, ← find?_eq_some distinct, Option.map_eq_some_iff]
  constructor
  · intro found
    exact ⟨id, found, rfl⟩
  · rintro ⟨other, found, same⟩
    exact ids.injective same ▸ found

theorem rootId_eq_ok {rootName : String} (named : draft.root = some rootName)
    {root : Fin draft.rules.length} :
    draft.rootId = .ok root ↔ draft.find? rootName = some root := by
  rw [rootId, named, Option.some_or]
  cases found : draft.find? rootName <;> simp [found]

theorem compile_places (places : ∀ id, draft'.rules.get (ids id) = draft.rules.get id)
    (find : draft'.find? = fun name => (draft.find? name).map ids)
    {rules : RuleTable draft.rules.length} (compiled : draft.compile read = .ok rules) :
    ∃ rules', draft'.compile read = .ok rules' ∧ rules.Renames ids rules' := by
  let rules' : RuleTable draft'.rules.length :=
    .ofFn fun id' => (rules.get (ids.symm id')).rename ids
  have get_rules' (id : Fin draft.rules.length) :
      rules'.get (ids id) = (rules.get id).rename ids := by
    have found : rules'.get (ids id) = (rules.get (ids.symm (ids id))).rename ids :=
      Vector.getElem_ofFn (ids id).isLt
    rw [found, Equiv.symm_apply_apply]
  refine ⟨rules', compile_eq_ok.mpr fun id' => ?_, get_rules'⟩
  obtain ⟨id, rfl⟩ := ids.surjective id'
  obtain ⟨sameName, compiles⟩ := compile_eq_ok.mp compiled id
  rw [get_rules' id, places id, find, Matcher.compile_rename, compiles]
  exact ⟨sameName, rfl⟩

/-- Rules that refer to each other in one order do so in another, from their places there. -/
theorem Reorders.resolve (reorders : draft.Reorders draft') {rootName : String}
    (named : draft.root = some rootName) {rules : RuleTable draft.rules.length}
    {root : Fin draft.rules.length} (resolved : draft.resolve read = .ok (rules, root)) :
    ∃ (ids : Fin draft.rules.length ≃ Fin draft'.rules.length)
      (rules' : RuleTable draft'.rules.length),
        draft'.resolve read = .ok (rules', ids root) ∧ rules.Renames ids rules' := by
  obtain ⟨distinct, defined, rooted, compiled⟩ := resolve_eq_ok.mp resolved
  obtain ⟨ids, places⟩ := exists_places distinct reorders.rules
  have namesPermuted : (Entries.names draft.rules).Perm (Entries.names draft'.rules) :=
    reorders.rules.map _
  have distinct' := namesPermuted.nodup distinct
  have find := find?_places (fun id => congrArg Prod.fst (places id)) distinct distinct'
  obtain ⟨rules', compiled', renames⟩ := compile_places places find compiled
  refine ⟨ids, rules', resolve_eq_ok.mpr ⟨distinct', ?_, ?_, compiled'⟩, renames⟩
  · rw [Matcher.undefinedReference?_eq_none] at defined ⊢
    intro rule member reference referred
    exact namesPermuted.mem_iff.mp
      (defined rule (reorders.rules.mem_iff.mpr member) reference referred)
  · rw [rootId_eq_ok named] at rooted
    rw [rootId_eq_ok (reorders.root.trans named), find]
    exact Option.map_eq_some_iff.mpr ⟨root, rooted, rfl⟩

def SettlesLeast (draft : Draft) (read : CharClass.Reader) : Prop :=
  ∀ rules root, draft.resolve read = .ok (rules, root) →
    ∃ facts, rules.facts? = some facts ∧ rules.Least facts

section

variable {grammar : Grammar} {rootName : String}

/-- A draft that is accepted in one order can be refused in another, but only for a name that a
sequence seems to capture twice. -/
theorem Reorders.cause_of_refused (reorders : draft.Reorders draft')
    (named : draft.root = some rootName) (built : draft.build? read = some (.ok grammar))
    {diagnostic : Diagnostic} (refused : draft'.build? read = some (.error diagnostic)) :
    ∃ rule name, diagnostic.cause = .duplicateCapture rule name := by
  obtain ⟨rules, root, facts, resolved, settled, checked, rfl⟩ := exists_of_build? built
  obtain ⟨ids, rules', resolved', renames⟩ := reorders.resolve named resolved
  rw [build?, resolved'] at refused
  obtain ⟨facts', settled', outcome⟩ := Option.map_eq_some_iff.mp refused
  have acyclic := renames.leftAcyclic (renames.flags_eq settled settled')
    (RuleTable.check_eq_ok.mp checked).2
  rw [check, RuleTable.leftRecursion?_eq_none.mpr acyclic] at outcome
  cases clash : rules'.duplicateCapture? facts' with
  | none =>
      rw [clash] at outcome
      cases outcome
  | some cause =>
      rw [clash] at outcome
      cases outcome
      obtain ⟨rule, -, found⟩ := List.exists_of_findSome?_eq_some clash
      obtain ⟨name, -, rfl⟩ := Option.map_eq_some_iff.mp found
      exact ⟨rule.name, name, rfl⟩

/-- Acceptance carries over to an order in which no rule holds a name without need. -/
theorem Reorders.exists_grammar (reorders : draft.Reorders draft')
    (named : draft.root = some rootName) (built : draft.build? read = some (.ok grammar))
    (least : draft'.SettlesLeast read) : ∃ grammar', draft'.build? read = some (.ok grammar') := by
  obtain ⟨rules, root, facts, resolved, settled, checked, rfl⟩ := exists_of_build? built
  obtain ⟨ids, rules', resolved', renames⟩ := reorders.resolve named resolved
  obtain ⟨facts', settled', leastFacts⟩ := least rules' (ids root) resolved'
  have checked' := renames.check settled settled' leastFacts checked
  exact ⟨_, build?_eq_ok resolved' settled' checked' rfl⟩

end

end Grammar.Draft

end PegText
