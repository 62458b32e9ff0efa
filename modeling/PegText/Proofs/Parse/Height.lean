import PegText.Proofs.Parse.Faithful
import PegText.Tree

/-!
How high the tree of a parse is. Every level of a tree belongs to a matcher: a name adds a level to
what it captures, and a record or a list that is put together from several yields belongs to the
sequence or the repetition that it was put together in. So the limit on nesting is one on the height
of the tree as well.
-/

namespace PegText

variable {α : Type}

namespace Tree

theorem height_pos (tree : Tree α) : 0 < tree.height := by
  cases tree with
  | atom | value => exact Nat.one_pos
  | record | list => exact Nat.succ_pos _

theorem entriesHeight_le_iff {entries : List (String × Capture)} {bound : Nat} :
    entriesHeight (ofEntries entries : List (String × Tree α)) ≤ bound ↔
      ∀ entry ∈ entries, (ofCapture entry.2 : Tree α).height ≤ bound := by
  induction entries with
  | nil => simp [ofEntries, entriesHeight]
  | cons entry rest ih =>
      rw [List.forall_mem_cons, ofEntries, entriesHeight, Nat.max_le, ih]

theorem itemsHeight_le_iff {items : List Capture} {bound : Nat} :
    itemsHeight (ofItems items : List (Tree α)) ≤ bound ↔
      ∀ item ∈ items, (ofCapture item : Tree α).height ≤ bound := by
  induction items with
  | nil => simp [ofItems, itemsHeight]
  | cons item rest ih =>
      rw [List.forall_mem_cons, ofItems, itemsHeight, Nat.max_le, ih]

end Tree

namespace Output

open PegText.Tree (ofCapture)

def Within (α : Type) (levels : Nat) (output : Output) : Prop :=
  (ofCapture output.toCapture : Tree α).height ≤ levels

/-- A yield that is being put together inside a node: its list is not yet a level of the tree. -/
def Gathers (α : Type) (levels : Nat) : Output → Prop
  | text _ => True
  | fields entries => (fields entries).Within α levels
  | list items => ∀ item ∈ items, (ofCapture item : Tree α).height ≤ levels

variable {levels : Nat} {output : Output} {outputs : List Output}

theorem within_fields {entries : List (String × Capture)} :
    (fields entries).Within α levels ↔
      0 < levels ∧ ∀ entry ∈ entries, (ofCapture entry.2 : Tree α).height < levels := by
  have shown : (ofCapture (fields entries).toCapture : Tree α).height =
      Tree.entriesHeight (Tree.ofEntries entries : List (String × Tree α)) + 1 := by
    match entries with
    | [] => rfl
    | [_] => rfl
    | _ :: _ :: _ => rfl
  rw [Within, shown]
  cases levels with
  | zero => simp
  | succ levels =>
      simp only [Nat.lt_succ_iff]
      simp [Tree.entriesHeight_le_iff]

theorem within_list {items : List Capture} :
    (list items).Within α levels ↔
      0 < levels ∧ ∀ item ∈ items, (ofCapture item : Tree α).height < levels := by
  have shown : (ofCapture (list items).toCapture : Tree α).height =
      Tree.itemsHeight (Tree.ofItems items : List (Tree α)) + 1 := rfl
  rw [Within, shown]
  cases levels with
  | zero => simp
  | succ levels =>
      simp only [Nat.lt_succ_iff]
      simp [Tree.itemsHeight_le_iff]

theorem Within.gathers (within : output.Within α levels) : output.Gathers α levels := by
  cases output with
  | text => trivial
  | fields => exact within
  | list items => exact fun item member => ((within_list.mp within).2 item member).le

theorem Gathers.within (gathers : output.Gathers α levels) : output.Within α (levels + 1) := by
  cases output with
  | text => exact Nat.succ_pos levels
  | fields => exact Nat.le_succ_of_le gathers
  | list items =>
      exact within_list.mpr ⟨Nat.succ_pos levels, fun item member =>
        Nat.lt_succ_of_le (gathers item member)⟩

theorem Gathers.roundItems (gathers : output.Gathers α levels) :
    (list output.roundItems).Gathers α levels := by
  cases output with
  | text => exact List.forall_mem_nil _
  | fields => exact List.forall_mem_singleton.mpr gathers
  | list => exact gathers

theorem Gathers.append {items more : List Capture} (one : (list items).Gathers α levels)
    (two : (list more).Gathers α levels) : (list (items ++ more)).Gathers α levels :=
  List.forall_mem_append.mpr ⟨one, two⟩

theorem Gathers.merge {first second merged : Output} (one : first.Gathers α levels)
    (two : second.Gathers α levels) (done : merge first second = .ok merged) :
    merged.Gathers α levels := by
  cases merges_of_merge done with
  | textInFront => exact two
  | textBehind => exact one
  | fields joined =>
      have perm := perm_of_mergeFields joined
      obtain ⟨positive, low⟩ := within_fields.mp one
      refine within_fields.mpr ⟨positive, fun entry member => ?_⟩
      rcases List.mem_append.mp (perm.mem_iff.mp member) with front | back
      · exact low entry front
      · exact (within_fields.mp two).2 entry back
  | lists => exact one.append two
  | listFields => exact one.append two.roundItems
  | fieldsList => exact one.roundItems.append two

theorem Gathers.mergeAll {first : Output} (gathers : first.Gathers α levels)
    (others : ∀ other ∈ outputs, other.Gathers α levels)
    (done : mergeAll first outputs = .ok output) : output.Gathers α levels := by
  induction outputs generalizing first with
  | nil =>
      cases done
      exact gathers
  | cons next rest ih =>
      obtain ⟨here, behind⟩ := List.forall_mem_cons.mp others
      obtain ⟨merged, joined, later⟩ := exists_merge_of_mergeAll done
      exact ih (gathers.merge here joined) behind later

theorem within_ofSequence {start stop : Cursor}
    (inside : ∀ part ∈ outputs, part.Within α levels)
    (done : ofSequence start stop outputs = .ok output) : output.Within α (levels + 1) := by
  have kept : ∀ part ∈ outputs.filter (!·.isText), part.Gathers α levels := fun part member =>
    (inside part (List.mem_of_mem_filter member)).gathers
  rw [ofSequence] at done
  split at done
  next =>
    cases done
    exact Nat.succ_pos levels
  next first rest shown =>
    rw [shown] at kept
    obtain ⟨here, behind⟩ := List.forall_mem_cons.mp kept
    exact (here.mergeAll behind done).within

theorem within_ofRounds (structured : Bool) {start stop : Cursor}
    (inside : ∀ round ∈ outputs, round.Within α levels) :
    (ofRounds structured start stop outputs).Within α (levels + 1) := by
  rw [ofRounds]
  split
  · exact Nat.succ_pos levels
  · refine Gathers.within fun item member => ?_
    obtain ⟨round, inRounds, among⟩ := List.mem_flatMap.mp member
    exact (inside round inRounds).gathers.roundItems item among

end Output

def Outcome.Within (α : Type) (levels : Nat) : Outcome → Prop
  | matched output _ => output.Within α levels
  | failed _ => True

variable {size : Nat} {rules : RuleTable size}

namespace Runner

def Low (α : Type) (levels : Nat) (run : Runner size) : Prop :=
  ∀ node cursor progress, (run node cursor progress).1.Within α levels

variable {run : Runner size} {levels : Nat}

theorem parts_low (low : run.Low α levels) {parts : List (Node size)} {cursor : Cursor}
    {progress after : Progress} {outputs : List Output} {stop : Cursor}
    (ended : run.parts parts cursor progress = (.ok (outputs, stop), after)) :
    ∀ output ∈ outputs, output.Within α levels := by
  induction parts generalizing cursor progress outputs with
  | nil =>
      cases ended
      exact List.forall_mem_nil _
  | cons part rest ih =>
      have first := low part cursor progress
      rw [Runner.parts] at ended
      rcases ran : run part cursor progress with ⟨_ | _, between⟩
      · rename_i output next
        rw [ran] at first
        rcases later : run.parts rest next between with ⟨_ | ⟨others, last⟩, done⟩
        · simp only [ran, later] at ended
          cases ended
        · simp only [ran, later] at ended
          cases ended
          exact List.forall_mem_cons.mpr ⟨first, ih later⟩
      · simp only [ran] at ended
        cases ended

theorem branches_low (low : run.Low α levels) (cursor : Cursor) (branches : List (Node size))
    (deepest : Option Failure) (progress : Progress) :
    (run.branches cursor branches deepest progress).1.Within α levels := by
  induction branches generalizing deepest progress with
  | nil => cases deepest <;> trivial
  | cons branch rest ih =>
      have first := low branch cursor progress
      rw [Runner.branches]
      split
      next matched =>
        rw [matched] at first
        exact first
      · exact ih _ _

theorem rounds_low (low : run.Low α levels) (inner : Node size) (most : Option Nat)
    (bound : List Char) (count : Nat) {outputs : List Output} (cursor : Cursor)
    (progress : Progress) (before : ∀ output ∈ outputs, output.Within α levels) :
    ∀ output ∈ (run.rounds inner most bound count outputs cursor progress).1.outputs,
      output.Within α levels := by
  have reversed {outputs : List Output} (all : ∀ output ∈ outputs, output.Within α levels) :
      ∀ output ∈ outputs.reverse, output.Within α levels := fun output member =>
    all output (List.mem_reverse.mp member)
  have first {cursor next : Cursor} {progress between : Progress} {output : Output}
      (ran : run inner cursor progress = (.matched output next, between)) :
      output.Within α levels := by
    have inside := low inner cursor progress
    rw [ran] at inside
    exact inside
  fun_induction Runner.rounds run inner most bound count outputs cursor progress with
  | case1 => exact reversed before
  | case2 => exact reversed before
  | case3 _ _ _ _ _ _ _ _ _ ran =>
      exact reversed (List.forall_mem_cons.mpr ⟨first ran, before⟩)
  | case4 _ _ _ _ _ _ _ _ ran => exact reversed (List.forall_mem_cons.mpr ⟨first ran, before⟩)
  | case5 _ _ _ _ _ _ _ _ ran _ _ _ ih => exact ih (List.forall_mem_cons.mpr ⟨first ran, before⟩)

theorem node_low (low : run.Low α levels) (node : Node size) (cursor : Cursor)
    (progress : Progress) : (run.node rules node cursor progress).1.Within α (levels + 1) := by
  have text (slice : Slice) : (Output.text slice).Within α (levels + 1) := Nat.succ_pos levels
  have leaf (isLeaf : node.IsLeaf) :
      (run.node rules node cursor progress).1.Within α (levels + 1) := by
    rcases leaf_ends isLeaf rules cursor with ⟨next, matched⟩ | ⟨expected, failed⟩
    · rw [matched]
      exact text _
    · rw [failed]
      trivial
  cases node with
  | literal | char | charClass | any => exact leaf trivial
  | sequence parts =>
      simp only [Runner.node]
      split
      · trivial
      next outputs stop after ended =>
        split
        next output merged => exact Output.within_ofSequence (parts_low low ended) merged
        · trivial
  | choice branches =>
      have inside := branches_low low cursor branches none progress
      simp only [Runner.node]
      cases ended : (run.branches cursor branches none progress).1 with
      | failed => trivial
      | matched output next =>
          rw [ended] at inside
          exact Nat.le_succ_of_le inside
  | repetition inner least most structured =>
      have inside := rounds_low low inner most cursor.rest 0 cursor progress (List.forall_mem_nil _)
      simp only [Runner.node]
      split
      · split <;> trivial
      · exact Output.within_ofRounds structured inside
  | absent inner =>
      simp only [Runner.node]
      split
      · trivial
      · exact text _
  | capture name inner =>
      have inside := low inner cursor progress
      simp only [Runner.node]
      split
      next output next after matched =>
        rw [matched] at inside
        exact Output.within_fields.mpr ⟨Nat.succ_pos levels,
          List.forall_mem_singleton.mpr (Nat.lt_succ_of_le inside)⟩
      · trivial
  | rule id =>
      have inside := low (rules.get id).body cursor progress
      simp only [Runner.node]
      cases ended : (run (rules.get id).body cursor progress).1 with
      | failed => trivial
      | matched output next =>
          rw [ended] at inside
          exact Nat.le_succ_of_le inside

end Runner

theorem RuleTable.run_low (rules : RuleTable size) (levels : Nat) :
    Runner.Low α levels (rules.run levels) := by
  induction levels with
  | zero => exact fun _ _ _ => trivial
  | succ levels ih =>
      intro node cursor progress
      rw [RuleTable.run_succ]
      split
      · trivial
      · exact Runner.node_low ih node cursor progress

/-- A parse within a limit gives no tree that is higher than the limit. -/
theorem Grammar.height_le_of_parseNested {grammar : Grammar} {rule : Option String}
    {source : Source} {limit : Nat} {capture : Capture}
    (parsed : grammar.parseNested rule source limit = .ok capture) :
    (Tree.ofCapture capture : Tree α).height ≤ limit := by
  cases known : grammar.startRule? rule with
  | none =>
      rw [parseNested_unknown known] at parsed
      cases parsed
  | some id =>
      rw [parseNested_eq_parseWith known] at parsed
      have settled := settled_of_parseWith parsed
      have low := grammar.rules.run_low (α := α) limit (grammar.rules.get id).body
        (.start source.text) .initial
      change conclude source limit (grammar.rules.run limit (grammar.rules.get id).body
        (.start source.text) .initial) = .ok capture at parsed
      rw [run] at settled
      rcases ran : grammar.rules.run limit (grammar.rules.get id).body (.start source.text) .initial
        with ⟨outcome, progress⟩
      rw [ran] at settled parsed low
      have fine : progress.exceeded = none := settled
      simp only [conclude, fine] at parsed
      cases outcome with
      | failed => cases parsed
      | matched output stop =>
          simp only at parsed
          split at parsed
          · cases parsed
            exact low
          · cases parsed

end PegText
