import PegText.Grammar.Checks
import Mathlib.Data.Finset.Card
import Mathlib.Data.Fintype.Card
import Mathlib.Logic.Relation

/-!
The search for a cycle of calls misses none: where it finds nothing, the rule it was started from
does not reach itself. What it finds is a way of calls from that rule back to it.
-/

namespace PegText.CallGraph

variable {size : Nat}

def Calls (calls : CallGraph size) (source target : Fin size) : Prop :=
  target ∈ calls source

/-- Between two moments of a search for `target`: rules stay entered, and those entered newly have
only calls to entered rules other than the target. -/
structure Explored (calls : CallGraph size) (target : Fin size)
    (earlier later : List (Fin size)) : Prop where
  kept : earlier ⊆ later
  closed : ∀ id ∈ later, id ∉ earlier → ∀ next ∈ calls id, next ≠ target ∧ next ∈ later

variable {calls : CallGraph size} {target : Fin size}

theorem Explored.refl (entered : List (Fin size)) : calls.Explored target entered entered :=
  ⟨List.Subset.refl _, fun _ present absent => (absent present).elim⟩

theorem Explored.trans {first second third : List (Fin size)}
    (one : calls.Explored target first second) (two : calls.Explored target second third) :
    calls.Explored target first third := by
  refine ⟨fun id early => two.kept (one.kept early), fun id present absent next call => ?_⟩
  by_cases between : id ∈ second
  · obtain ⟨different, member⟩ := one.closed id between absent next call
    exact ⟨different, two.kept member⟩
  · exact two.closed id present between next call

def fresh (entered : List (Fin size)) : Finset (Fin size) :=
  {id | id ∉ entered}

theorem fresh_card_le {earlier later : List (Fin size)} (kept : earlier ⊆ later) :
    (fresh later).card ≤ (fresh earlier).card := by
  refine Finset.card_le_card fun id member => ?_
  simp only [fresh, Finset.mem_filter, Finset.mem_univ, true_and] at member ⊢
  exact fun present => member (kept present)

theorem fresh_cons_card_lt {next : Fin size} {entered : List (Fin size)}
    (unentered : next ∉ entered) : (fresh (next :: entered)).card < (fresh entered).card := by
  refine Finset.card_lt_card (Finset.ssubset_iff_of_subset ?_ |>.mpr ⟨next, ?_, ?_⟩)
  · intro id member
    simp only [fresh, Finset.mem_filter, Finset.mem_univ, true_and] at member ⊢
    exact fun present => member (List.mem_cons_of_mem _ present)
  · simpa [fresh] using unentered
  · simp [fresh]

/-- Trying candidates explores what each single visit explores, as long as the visits may rely on
a bound for the rules that are left. -/
theorem tryEach_explored {visit : Fin size → List (Fin size) → Findings size} {bound : Nat}
    (visited : ∀ next entered later, (fresh entered).card < bound →
      visit next entered = (none, later) →
      calls.Explored target entered later ∧ next ≠ target ∧ next ∈ later)
    {candidates entered later : List (Fin size)} (few : (fresh entered).card < bound)
    (found : tryEach visit candidates entered = (none, later)) :
    calls.Explored target entered later ∧
      ∀ next ∈ candidates, next ≠ target ∧ next ∈ later := by
  induction candidates generalizing entered with
  | nil =>
      simp only [tryEach, Prod.mk.injEq, true_and] at found
      subst later
      exact ⟨.refl entered, by simp⟩
  | cons next rest ih =>
      rw [tryEach] at found
      split at found
      · simp at found
      next between visit_eq =>
        obtain ⟨explored, different, member⟩ := visited next entered between few visit_eq
        have fewer := fresh_card_le explored.kept
        obtain ⟨exploredRest, rest_found⟩ := ih (by omega) found
        refine ⟨explored.trans exploredRest, fun other candidate => ?_⟩
        rcases List.mem_cons.mp candidate with same | later
        · exact same ▸ ⟨different, exploredRest.kept member⟩
        · exact rest_found other later

/-- A search that may go deep enough and finds nothing has explored all that it could reach. -/
theorem search_explored {depth : Nat} {start : Fin size} {entered later : List (Fin size)}
    (enough : (fresh entered).card < depth)
    (found : search calls target depth start entered = (none, later)) :
    calls.Explored target entered later ∧
      ∀ next ∈ calls start, next ≠ target ∧ next ∈ later := by
  induction depth generalizing start entered later with
  | zero => omega
  | succ depth ih =>
      rw [search] at found
      refine tryEach_explored ?_ enough found
      intro next entered later few visit
      split at visit
      · simp at visit
      next different =>
        split at visit
        next present =>
          simp only [Prod.mk.injEq, true_and] at visit
          subst later
          exact ⟨.refl entered, different, by simpa using present⟩
        next absent =>
          have unentered : next ∉ entered := by simpa using absent
          have fewer := fresh_cons_card_lt unentered
          split at visit
          · simp at visit
          next inner searched =>
            simp only [Prod.mk.injEq, true_and] at visit
            subst later
            -- `next` is entered before its own calls are searched, so it is explored with them
            obtain ⟨explored, called⟩ := ih (by omega) searched
            have member : next ∈ inner := explored.kept List.mem_cons_self
            refine ⟨⟨fun id old => explored.kept (List.mem_cons_of_mem _ old), ?_⟩,
              different, member⟩
            intro id present notBefore other call
            by_cases same : id = next
            · exact called other (same ▸ call)
            · exact explored.closed id present (by simp [same, notBefore]) other call

theorem not_reaches_of_cycle? {start : Fin size} (found : calls.cycle? start = none) :
    ¬Relation.TransGen calls.Calls start start := by
  have enough : (fresh ([] : List (Fin size))).card < size + 1 := by
    have bound := Finset.card_le_univ (fresh ([] : List (Fin size)))
    rw [Fintype.card_fin] at bound
    omega
  have searched : search calls start (size + 1) start [] =
      (none, (search calls start (size + 1) start []).2) := Prod.ext found rfl
  obtain ⟨explored, called⟩ := search_explored enough searched
  have reached : ∀ id, Relation.TransGen calls.Calls start id →
      id ≠ start ∧ id ∈ (search calls start (size + 1) start []).2 := by
    intro id way
    induction way with
    | single call => exact called _ call
    | tail _ call ih => exact explored.closed _ ih.2 List.not_mem_nil _ call
  exact fun cycle => (reached start cycle).1 rfl

inductive Way (calls : CallGraph size) (target : Fin size) :
    List (Fin size) → Fin size → List (Fin size) → Prop
  | last {entered start} : calls.Calls start target → Way calls target entered start [target]
  | step {entered start next path} : calls.Calls start next → next ≠ target → next ∉ entered →
      Way calls target (next :: entered) next path → Way calls target entered start (next :: path)

namespace Way

variable {start : Fin size} {entered path : List (Fin size)}

theorem mono {earlier : List (Fin size)} (way : calls.Way target entered start path)
    (kept : earlier ⊆ entered) : calls.Way target earlier start path := by
  induction way generalizing earlier with
  | last call => exact .last call
  | step call different absent _ ih =>
      apply Way.step call different
      · intro present
        exact absent (kept present)
      · apply ih
        exact List.cons_subset_cons _ kept

theorem reaches (way : calls.Way target entered start path) :
    Relation.TransGen calls.Calls start target := by
  induction way with
  | last call => exact .single call
  | step call _ _ _ ih => exact .head call ih

theorem chain (way : calls.Way target entered start path) :
    (start :: path).IsChain calls.Calls := by
  induction way with
  | last call => exact .cons_cons call (.singleton _)
  | step call _ _ _ ih => exact .cons_cons call ih

theorem exists_between (way : calls.Way target entered start path) :
    ∃ between, path = between ++ [target] ∧ between.Nodup ∧
      ∀ id ∈ between, id ≠ target ∧ id ∉ entered := by
  induction way with
  | last => exact ⟨[], rfl, .nil, by simp⟩
  | @step entered start next path call different absent later ih =>
      obtain ⟨between, rfl, distinct, fresh⟩ := ih
      have once : next ∉ between := by
        intro again
        exact (fresh next again).2 List.mem_cons_self
      refine ⟨next :: between, rfl, List.nodup_cons.mpr ⟨once, distinct⟩, ?_⟩
      intro id member
      rcases List.mem_cons.mp member with same | further
      · exact same ▸ ⟨different, absent⟩
      · have ⟨other, unentered⟩ := fresh id further
        exact ⟨other, fun present => unentered (List.mem_cons_of_mem _ present)⟩

end Way

structure Found (calls : CallGraph size) (target start : Fin size) (entered : List (Fin size))
    (findings : Findings size) : Prop where
  kept : entered ⊆ findings.2
  way : ∀ path, findings.1 = some path → calls.Way target entered start path

theorem tryEach_found {visit : Fin size → List (Fin size) → Findings size} {start : Fin size}
    {candidates : List (Fin size)}
    (visited : ∀ next ∈ candidates, ∀ entered,
      calls.Found target start entered (visit next entered))
    (entered : List (Fin size)) :
    calls.Found target start entered (tryEach visit candidates entered) := by
  induction candidates generalizing entered with
  | nil => exact ⟨List.Subset.refl _, by simp [tryEach]⟩
  | cons next rest ih =>
      obtain ⟨here, behind⟩ := List.forall_mem_cons.mp visited
      have first := here entered
      rw [tryEach]
      split
      next path later visit_eq =>
        rw [visit_eq] at first
        exact first
      next between visit_eq =>
        rw [visit_eq] at first
        -- what was entered in vain is avoided by the way found later, so it avoids `entered` too
        have second := ih behind between
        refine ⟨fun id early => second.kept (first.kept early), ?_⟩
        intro path found
        exact (second.way path found).mono first.kept

theorem search_found (depth : Nat) (start : Fin size) (entered : List (Fin size)) :
    calls.Found target start entered (search calls target depth start entered) := by
  induction depth generalizing start entered with
  | zero => exact ⟨List.Subset.refl _, by simp [search]⟩
  | succ depth ih =>
      rw [search]
      apply tryEach_found
      intro next call entered
      split
      next same =>
        refine ⟨List.Subset.refl _, ?_⟩
        intro path found
        simp only [Option.some.injEq] at found
        rw [← found, same]
        exact .last (same ▸ call)
      next different =>
        split
        · exact ⟨List.Subset.refl _, by simp⟩
        next absent =>
          have inside := ih next (next :: entered)
          have unentered : next ∉ entered := by simpa using absent
          split
          all_goals
            rename_i searched
            rw [searched] at inside
            refine ⟨fun id early => inside.kept (List.mem_cons_of_mem _ early), ?_⟩
          · intro path found
            simp only [Option.some.injEq] at found
            rw [← found]
            exact .step call different unentered (inside.way _ rfl)
          · simp

theorem cycle?_eq_none_iff {start : Fin size} :
    calls.cycle? start = none ↔ ¬Relation.TransGen calls.Calls start start := by
  refine ⟨not_reaches_of_cycle?, fun acyclic => ?_⟩
  rw [Option.eq_none_iff_forall_ne_some]
  exact fun path found => acyclic ((search_found _ start []).way path found).reaches

theorem cycle?_eq_some {start : Fin size} {path : List (Fin size)}
    (found : calls.cycle? start = some path) :
    ∃ between, path = between ++ [start] ∧ (start :: between).Nodup ∧
      (start :: path).IsChain calls.Calls := by
  have way := (search_found _ start []).way path found
  obtain ⟨between, same, distinct, fresh⟩ := way.exists_between
  have once : start ∉ between := by
    intro again
    exact (fresh start again).1 rfl
  exact ⟨between, same, List.nodup_cons.mpr ⟨once, distinct⟩, way.chain⟩

end PegText.CallGraph
