import PegText.Proofs.Grammar.Weight

/-!
The verdict on left recursion is exact: a table is refused if and only if one of its rules can enter
itself before anything is consumed. The report blames the first such rule and shows a way of calls
from it back to itself that enters no other rule twice.
-/

namespace PegText.RuleTable

variable {size : Nat}

def ReentersItself (rules : RuleTable size) (facts : FactTable size) (id : Fin size) : Prop :=
  Relation.TransGen (rules.CallsAtLeft facts) id id

structure Cycle (rules : RuleTable size) (facts : FactTable size) (start : Fin size)
    (between : List (Fin size)) : Prop where
  calls : (start :: between ++ [start]).IsChain (rules.CallsAtLeft facts)
  once : (start :: between).Nodup

def cycleReport (rules : RuleTable size) (start : Fin size) (between : List (Fin size)) : Cause :=
  .leftRecursion (rules.get start).name
    (" -> ".intercalate ((start :: between ++ [start]).map fun id => (rules.get id).name))

variable {rules : RuleTable size} {facts : FactTable size}

theorem calls_leftCalls : (rules.leftCalls facts).Calls = rules.CallsAtLeft facts := by
  funext source target
  simp [CallGraph.Calls, leftCalls, CallsAtLeft]

theorem cycle?_leftCalls_eq_none_iff {id : Fin size} :
    (rules.leftCalls facts).cycle? id = none ↔ ¬rules.ReentersItself facts id := by
  rw [CallGraph.cycle?_eq_none_iff, calls_leftCalls, ReentersItself]

theorem exists_of_leftRecursion? {cause : Cause} (found : rules.leftRecursion? facts = some cause) :
    ∃ start between, rules.ReentersItself facts start ∧
      (∀ earlier < start, ¬rules.ReentersItself facts earlier) ∧
      rules.Cycle facts start between ∧ cause = rules.cycleReport start between := by
  obtain ⟨front, start, behind, places, reported, nothing⟩ := List.findSome?_eq_some_iff.mp found
  obtain ⟨path, way, same⟩ := Option.map_eq_some_iff.mp reported
  have reenters : rules.ReentersItself facts start := by
    by_contra never
    rw [cycle?_leftCalls_eq_none_iff.mpr never] at way
    cases way
  have none_earlier : ∀ earlier < start, ¬rules.ReentersItself facts earlier := by
    intro earlier before
    have sorted := List.pairwise_lt_finRange size
    have member := List.mem_finRange earlier
    rw [places, List.pairwise_append, List.pairwise_cons] at sorted
    rw [places, List.mem_append, List.mem_cons] at member
    rcases member with inFront | atStart | later
    · have unfound := nothing earlier inFront
      rw [Option.map_eq_none_iff] at unfound
      exact cycle?_leftCalls_eq_none_iff.mp unfound
    · omega
    · have above := sorted.2.1.1 earlier later
      omega
  obtain ⟨between, rfl, once, calls⟩ := CallGraph.cycle?_eq_some way
  rw [calls_leftCalls] at calls
  exact ⟨start, between, reenters, none_earlier, ⟨calls, once⟩, same.symm⟩

/-- The check for left recursion passes exactly the tables in which no rule can reach itself before
it has consumed anything. From any other table it reports the first rule that can, with a cycle of
such calls from that rule to itself. -/
theorem leftRecursion?_exact (rules : RuleTable size) (facts : FactTable size) :
    (rules.leftRecursion? facts = none ↔ ∀ id, ¬rules.ReentersItself facts id) ∧
      ∀ cause, rules.leftRecursion? facts = some cause →
        ∃ start between, rules.ReentersItself facts start ∧
          (∀ earlier < start, ¬rules.ReentersItself facts earlier) ∧
          rules.Cycle facts start between ∧ cause = rules.cycleReport start between := by
  constructor
  · rw [leftRecursion?_eq_none]
    rfl
  · intro cause found
    exact exists_of_leftRecursion? found

-- The search goes through "b" first, and nothing of that is left in the report.
example :
    let rules : RuleTable 3 :=
      #v[⟨"a", .choice [.rule 1, .rule 2]⟩, ⟨"b", .char 'x'⟩, ⟨"c", .rule 0⟩]
    rules.leftRecursion? (rules.after 3) = some (.leftRecursion "a" "a -> c -> a") := by
  rfl

end PegText.RuleTable
