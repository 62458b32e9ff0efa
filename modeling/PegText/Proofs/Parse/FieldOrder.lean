import PegText.Proofs.Parse.Faithful

/-!
The order of fields. The entries of a record are sorted by name, so that their order says nothing
about the text. But if no sequence of a grammar has a part with the one name behind a part with the
other, then wherever a record of the tree has both names, the first field ends before the second one
starts.
-/

namespace PegText

open Capture (Ahead Inside)

def Capture.InTurn (first second : String) (capture : Capture) : Prop :=
  ∀ entries, Inside (.record entries) capture → ∀ one two,
    (first, one) ∈ entries → (second, two) ∈ entries → Ahead one two

theorem Capture.InTurn.inside {first second : String} {inner capture : Capture}
    (turn : capture.InTurn first second) (within : Inside inner capture) :
    inner.InTurn first second :=
  fun entries deeper => turn entries (deeper.trans within)

namespace Output

def InTurn (first second : String) : Output → Prop
  | .text _ => True
  | .fields entries => (∀ entry ∈ entries, entry.2.InTurn first second) ∧
      ∀ one two, (first, one) ∈ entries → (second, two) ∈ entries → Ahead one two
  | .list items => ∀ item ∈ items, item.InTurn first second

def Swapped (first second : String) (front back : Output) : Prop :=
  second ∈ front.names ∧ first ∈ back.names

variable {first second : String} {text : String} {start middle stop : Nat} {output front back : Output}
  {outputs : List Output}

theorem InTurn.toCapture (turn : output.InTurn first second) :
    output.toCapture.InTurn first second := by
  match output with
  | .text _ => rintro _ ⟨⟩
  | .fields [entry] =>
      intro entries inside
      cases inside with
      | tagged deeper => exact turn.1 entry List.mem_cons_self entries deeper
  | .fields [] =>
      intro entries inside one two here
      cases inside with
      | here => cases here
      | record member => cases member
  | .fields (entry :: other :: rest) =>
      intro entries inside
      cases inside with
      | here => exact turn.2
      | record member deeper => exact turn.1 _ member entries deeper
  | .list items =>
      intro entries inside
      cases inside with
      | list member deeper => exact turn _ member entries deeper

theorem InTurn.roundItems (turn : output.InTurn first second) :
    (Output.list output.roundItems).InTurn first second := by
  cases output with
  | text => simp [InTurn, Output.roundItems]
  | fields => simpa [InTurn, Output.roundItems] using turn.toCapture
  | list => exact turn

theorem InTurn.ofRounds {cursor next : Cursor} (structured : Bool)
    (turns : ∀ output ∈ outputs, output.InTurn first second) :
    (ofRounds structured cursor next outputs).InTurn first second := by
  rw [Output.ofRounds]
  split
  · trivial
  · intro item member
    obtain ⟨output, among, inside⟩ := List.mem_flatMap.mp member
    exact (turns output among).roundItems item inside

theorem names_of_merge {merged : Output} (done : merge front back = .ok merged) :
    merged.names ⊆ front.names ++ back.names := by
  cases merges_of_merge done with
  | textInFront | textBehind | lists | listFields | fieldsList => simp [Output.names]
  | fields joined =>
      have perm := (perm_of_mergeFields joined).map Prod.fst
      rw [List.map_append] at perm
      exact perm.subset

theorem InTurn.mergeFields {entries more merged : List (String × Capture)}
    (one : (Output.fields entries).Between text start middle)
    (two : (Output.fields more).Between text middle stop)
    (turn : (Output.fields entries).InTurn first second)
    (turn' : (Output.fields more).InTurn first second)
    (kept : ¬Swapped first second (.fields entries) (.fields more))
    (done : Output.mergeFields entries more = .ok merged) :
    (Output.fields merged).InTurn first second := by
  have member {entry : String × Capture} : entry ∈ merged ↔ entry ∈ entries ∨ entry ∈ more := by
    rw [(perm_of_mergeFields done).mem_iff, List.mem_append]
  constructor
  · intro entry among
    cases member.mp among with
    | inl inFront => exact turn.1 entry inFront
    | inr inBack => exact turn'.1 entry inBack
  · intro x y hasFirst hasSecond
    cases member.mp hasFirst with
    | inl firstFront =>
        cases member.mp hasSecond with
        | inl secondFront => exact turn.2 x y firstFront secondFront
        | inr secondBack => exact (one.2.1 _ firstFront).ahead (two.2.1 _ secondBack)
    | inr firstBack =>
        cases member.mp hasSecond with
        | inl secondFront =>
            have inFront : second ∈ Entries.names entries := List.mem_map_of_mem secondFront
            have inBack : first ∈ Entries.names more := List.mem_map_of_mem firstBack
            exact (kept ⟨inFront, inBack⟩).elim
        | inr secondBack => exact turn'.2 x y firstBack secondBack

theorem InTurn.merge {merged : Output} (one : front.Between text start middle)
    (two : back.Between text middle stop) (turn : front.InTurn first second)
    (turn' : back.InTurn first second) (kept : ¬Swapped first second front back)
    (done : merge front back = .ok merged) : merged.InTurn first second := by
  cases merges_of_merge done with
  | textInFront => exact turn'
  | textBehind => exact turn
  | fields joined => exact turn.mergeFields one two turn' kept joined
  | lists => exact List.forall_mem_append.mpr ⟨turn, turn'⟩
  | listFields =>
      exact List.forall_mem_append.mpr ⟨turn, List.forall_mem_singleton.mpr turn'.toCapture⟩
  | fieldsList => exact List.forall_mem_cons.mpr ⟨turn.toCapture, turn'⟩

def Kept (first second : String) (outputs : List Output) : Prop :=
  outputs.Pairwise fun front back => ¬Swapped first second front back

theorem Kept.merge {merged : Output} (kept : Kept first second (front :: back :: outputs))
    (done : Output.merge front back = .ok merged) : Kept first second (merged :: outputs) := by
  obtain ⟨fromFront, behind⟩ := List.pairwise_cons.mp kept
  obtain ⟨fromBack, later⟩ := List.pairwise_cons.mp behind
  apply List.pairwise_cons.mpr ⟨_, later⟩
  rintro other among ⟨hasSecond, hasFirst⟩
  cases List.mem_append.mp (names_of_merge done hasSecond) with
  | inl inFront => exact fromFront other (List.mem_cons_of_mem _ among) ⟨inFront, hasFirst⟩
  | inr inBack => exact fromBack other among ⟨inBack, hasFirst⟩

theorem InTurn.mergeAll (ordered : start ≤ middle) (between : front.Between text start middle)
    (row : Row text middle outputs stop) (kept : Kept first second (front :: outputs))
    (turns : ∀ output ∈ front :: outputs, output.InTurn first second)
    (done : Output.mergeAll front outputs = .ok output) : output.InTurn first second := by
  induction outputs generalizing front middle with
  | nil =>
      cases done
      exact turns output List.mem_cons_self
  | cons back outputs ih =>
      obtain ⟨turn, others⟩ := List.forall_mem_cons.mp turns
      obtain ⟨turn', later⟩ := List.forall_mem_cons.mp others
      cases row with
      | cons ordered' between' row =>
          obtain ⟨merged, joined, ended⟩ := exists_merge_of_mergeAll done
          have kept' := (List.pairwise_cons.mp kept).1 back List.mem_cons_self
          have turned := turn.merge between between' turn' kept' joined
          exact ih (ordered.trans ordered') (between.merge ordered ordered' between' joined) row
            (kept.merge joined) (List.forall_mem_cons.mpr ⟨turned, later⟩) ended

theorem InTurn.ofSequence {cursor next : Cursor} (row : Row text start outputs stop)
    (kept : Kept first second outputs) (turns : ∀ output ∈ outputs, output.InTurn first second)
    (done : ofSequence cursor next outputs = .ok output) : output.InTurn first second := by
  have rowShown := row.filter (!·.isText)
  have keptShown : Kept first second (outputs.filter (!·.isText)) := List.Pairwise.filter _ kept
  have turnsShown : ∀ output ∈ outputs.filter (!·.isText), output.InTurn first second :=
    fun output member => turns output (List.mem_filter.mp member).1
  rw [Output.ofSequence] at done
  split at done
  next =>
    cases done
    trivial
  next front rest shown =>
    rw [shown] at rowShown keptShown turnsShown
    cases rowShown with
    | cons ordered between row => exact InTurn.mergeAll ordered between row keptShown turnsShown done

end Output

section

variable {size : Nat} {rules : RuleTable size} {facts : FactTable size} {limited : Prop}
  {first second : String}

open Output (Kept)

def RuleTable.Puts (rules : RuleTable size) (facts : FactTable size) (first second : String) : Prop :=
  ∀ parts, .sequence parts ∈ rules.nodes → parts.Pairwise fun front back =>
    ¬(second ∈ front.keys facts ∧ first ∈ back.keys facts)

def Node.puts (facts : FactTable size) (first second : String) : Node size → Bool
  | .sequence parts => decide (parts.Pairwise fun front back =>
      ¬(second ∈ front.keys facts ∧ first ∈ back.keys facts))
  | _ => true

theorem RuleTable.puts_of_all (checked : rules.nodes.all (Node.puts facts first second) = true) :
    rules.Puts facts first second :=
  fun parts member => of_decide_eq_true (List.all_eq_true.mp checked (.sequence parts) member)

theorem kept_of_fits {parts : List (Node size)} {outputs : List Output}
    (puts : parts.Pairwise fun front back =>
      ¬(second ∈ front.keys facts ∧ first ∈ back.keys facts))
    (fits : List.Forall₂ (Node.Fits facts) parts outputs) : Kept first second outputs := by
  induction fits with
  | nil => exact .nil
  | @cons part output parts outputs fitsHere fits ih =>
      obtain ⟨here, behind⟩ := List.pairwise_cons.mp puts
      apply List.pairwise_cons.mpr ⟨_, ih behind⟩
      rintro other among ⟨hasSecond, hasFirst⟩
      obtain ⟨partner, amongParts, fitsOther⟩ : ∃ part ∈ parts, part.Fits facts other := by
        obtain ⟨index, bound, rfl⟩ := List.getElem_of_mem among
        exact ⟨_, List.getElem_mem (fits.length_eq ▸ bound), fits.get _ bound⟩
      exact here partner amongParts ⟨fitsHere.keys hasSecond, fitsOther.keys hasFirst⟩

/-- What a goal yields has the two fields in turn. -/
theorem RuleTable.Derives.inTurn (accepted : rules.Accepted facts)
    (puts : rules.Puts facts first second) (different : first ≠ second) {text : String}
    {goal : Goal size} {cursor next : Cursor} {before : List Char} {outputs : List Output}
    (derives : rules.Derives limited goal cursor (some (outputs, next)))
    (within : goal.Within rules) (reached : (Cursor.start text).Passes before cursor) :
    ∀ output ∈ outputs, output.InTurn first second := by
  generalize ended : some (outputs, next) = result at derives
  induction derives generalizing outputs next before with
  | gaveUp | literalFails | charFails | charClassFails | anyFails | sequenceFails
  | repetitionFails | absentFails | captureFails | partsFail | partsFailLater | branchesNil =>
      cases ended
  | literal | char | charClass | any | absent =>
      cases ended
      simp [Output.InTurn]
  | @sequence parts _ _ _ _ inside merged ih =>
      cases ended
      have withinParts : Goal.Within rules (.parts parts) := fun part member =>
        mem_nodes_of_inner within (Node.mem_nodes_sequence member)
      have turns := ih withinParts reached rfl
      have fits := inside.fits accepted withinParts
      have kept := kept_of_fits (puts parts within) fits
      simpa using Output.InTurn.ofSequence (inside.row reached) kept turns merged
  | choice _ ih =>
      exact ih (fun branch member => mem_nodes_of_inner within (Node.mem_nodes_choice member))
        reached ended
  | rule _ ih => exact ih (rules.body_mem_nodes _) reached ended
  | repetition _ _ ih =>
      cases ended
      have turns := ih (mem_nodes_of_inner within Node.mem_nodes_repetition) reached rfl
      simpa using Output.InTurn.ofRounds _ turns
  | capture _ ih =>
      cases ended
      have turns := ih (mem_nodes_of_inner within Node.mem_nodes_capture) reached rfl
      have turn := (List.forall_mem_singleton.mp turns).toCapture
      refine List.forall_mem_singleton.mpr ⟨List.forall_mem_singleton.mpr turn, ?_⟩
      intro one two hasFirst hasSecond
      cases List.mem_singleton.mp hasFirst
      cases List.mem_singleton.mp hasSecond
      exact (different rfl).elim
  | partsNil | roundsFull | roundsEnd =>
      cases ended
      exact List.forall_mem_nil _
  | partsCons one _ ihFirst ihLater =>
      cases ended
      obtain ⟨here, behind⟩ := List.forall_mem_cons.mp within
      obtain ⟨passed, passes⟩ := one.passes
      have turns := ihFirst here reached rfl
      exact List.forall_mem_cons.mpr
        ⟨turns _ List.mem_cons_self, ihLater behind (reached.trans passes) rfl⟩
  | roundsMore _ one _ _ ihFirst ihLater =>
      cases ended
      obtain ⟨passed, passes⟩ := one.passes
      have turns := ihFirst within reached rfl
      exact List.forall_mem_cons.mpr
        ⟨turns _ List.mem_cons_self, ihLater within (reached.trans passes) rfl⟩
  | branchesFirst _ ih =>
      cases ended
      exact ih (List.forall_mem_cons.mp within).1 reached rfl
  | branchesLater _ _ _ ih =>
      cases ended
      exact ih (List.forall_mem_cons.mp within).2 reached rfl
  | roundsEmpty _ _ _ ih =>
      cases ended
      exact ih within reached rfl

/-- The tree of a parse has two fields in turn if the grammar puts them so. -/
theorem Grammar.inTurn_of_parseNested {grammar : Grammar} {facts : FactTable grammar.size}
    (accepted : grammar.rules.Accepted facts) (puts : grammar.rules.Puts facts first second)
    (different : first ≠ second) {rule : Option String} {source : Source} {limit : Nat}
    {capture : Capture} (parsed : grammar.parseNested rule source limit = .ok capture) :
    capture.InTurn first second := by
  obtain ⟨id, output, stop, -, -, found, -, rfl⟩ := (parseNested_eq_ok accepted).mp parsed
  have inside := found.of_rule
  have turns := RuleTable.Derives.inTurn accepted puts different inside
    (grammar.rules.body_mem_nodes id) (.refl (.start source.text))
  exact (turns output List.mem_cons_self).toCapture

end

end PegText
