import PegText.Proofs.Parse.Runs
import PegText.Proofs.Parse.Semantics

/-!
The tree of a parse is a faithful account of its text: its atoms are cut from the text where they
say, no two fields of a record share a byte, lists are in the order of the text, and records and
lists are built in one way only.
-/

namespace PegText

structure Slice.CutFrom (text : String) (slice : Slice) : Prop where
  ordered : slice.span.start ≤ slice.span.stop
  within : slice.span.stop ≤ text.utf8ByteSize
  cut : ∃ front back : String, text = front ++ slice.text ++ back ∧
    slice.span = ⟨front.utf8ByteSize, (front ++ slice.text).utf8ByteSize⟩

theorem Cursor.Passes.cutFrom {text : String} {cursor next : Cursor} {front passed : List Char}
    (reached : (start text).Passes front cursor) (passes : cursor.Passes passed next) :
    (cursor.sliceTo next).CutFrom text := by
  have whole : text = .ofList front ++ .ofList passed ++ .ofList next.rest := by
    rw [← String.toList_inj]
    have rest : text.toList = front ++ cursor.rest := reached.rest
    simpa [passes.rest] using rest
  have begins : (String.ofList front).utf8ByteSize = cursor.offset := by
    rw [reached.offset, ← String.utf8Len_toList, String.toList_ofList]
    exact (Nat.zero_add _).symm
  have ends : (String.ofList front ++ String.ofList passed).utf8ByteSize = next.offset := by
    rw [String.utf8ByteSize_append, begins, passes.offset, ← String.utf8Len_toList,
      String.toList_ofList]
  rw [passes.sliceTo]
  refine ⟨?_, ?_, .ofList front, .ofList next.rest, whole, ?_⟩
  · rw [passes.offset]
    exact Nat.le_add_right _ _
  · rw [whole, String.utf8ByteSize_append, ends]
    exact Nat.le_add_right _ _
  · rw [begins, ends]

namespace Capture

inductive Inside (inner : Capture) : Capture → Prop
  | here : Inside inner inner
  | tagged {name value} : Inside inner value → Inside inner (.tagged name value)
  | record {entries entry} : entry ∈ entries → Inside inner entry.2 → Inside inner (.record entries)
  | list {items item} : item ∈ items → Inside inner item → Inside inner (.list items)

def Apart (first second : Capture) : Prop :=
  ∀ one two, Inside (.atom one) first → Inside (.atom two) second →
    one.span.stop ≤ two.span.start ∨ two.span.stop ≤ one.span.start

def Ahead (first second : Capture) : Prop :=
  ∀ one two, Inside (.atom one) first → Inside (.atom two) second →
    one.span.stop ≤ two.span.start

inductive Named : Capture → Prop
  | tagged (name : String) (value : Capture) : Named (.tagged name value)
  | record (entries : List (String × Capture)) : Named (.record entries)

def Sound (text : String) : Capture → Prop
  | atom slice => slice.CutFrom text
  | tagged _ _ => True
  | record entries => 2 ≤ entries.length ∧ (entries.map Prod.snd).Pairwise Apart
  | list items => (∀ item ∈ items, item.Named) ∧ items.Pairwise Ahead

def Faithful (text : String) (capture : Capture) : Prop :=
  ∀ inner, Inside inner capture → inner.Sound text

theorem Inside.trans {inner middle outer : Capture} (deep : Inside inner middle)
    (inside : Inside middle outer) : Inside inner outer := by
  induction inside with
  | here => exact deep
  | tagged _ ih => exact .tagged ih
  | record member _ ih => exact .record member ih
  | list member _ ih => exact .list member ih

theorem Faithful.inside {text : String} {inner capture : Capture}
    (faithful : capture.Faithful text) (within : Inside inner capture) : inner.Faithful text :=
  fun _ deeper => faithful _ (deeper.trans within)

theorem Apart.symm {first second : Capture} (apart : Apart first second) : Apart second first :=
  fun one two inSecond inFirst => (apart two one inFirst inSecond).symm

theorem Ahead.apart {first second : Capture} (ahead : Ahead first second) : Apart first second :=
  fun one two inFirst inSecond => .inl (ahead one two inFirst inSecond)

/-- A faithful capture with all its atoms between two positions. -/
structure Between (text : String) (start stop : Nat) (capture : Capture) : Prop where
  faithful : Faithful text capture
  starts : ∀ slice, Inside (.atom slice) capture → start ≤ slice.span.start
  stops : ∀ slice, Inside (.atom slice) capture → slice.span.stop ≤ stop

variable {text : String} {start stop : Nat}

theorem Between.widen {start' stop' : Nat} {capture : Capture}
    (between : capture.Between text start stop) (before : start' ≤ start) (behind : stop ≤ stop') :
    capture.Between text start' stop' where
  faithful := between.faithful
  starts slice inside := before.trans (between.starts slice inside)
  stops slice inside := (between.stops slice inside).trans behind

theorem Between.ahead {middle : Nat} {first second : Capture}
    (one : first.Between text start middle) (two : second.Between text middle stop) :
    Ahead first second :=
  fun _ _ inFirst inSecond => (one.stops _ inFirst).trans (two.starts _ inSecond)

theorem Between.atom {slice : Slice} (cut : slice.CutFrom text) (starts : start ≤ slice.span.start)
    (stops : slice.span.stop ≤ stop) : (Capture.atom slice).Between text start stop := by
  constructor
  · rintro inner ⟨⟩
    exact cut
  · rintro _ ⟨⟩
    exact starts
  · rintro _ ⟨⟩
    exact stops

theorem Between.tagged {name : String} {value : Capture} (inside : value.Between text start stop) :
    (Capture.tagged name value).Between text start stop := by
  constructor
  · rintro inner (_ | deeper)
    · trivial
    · exact inside.faithful inner deeper
  · rintro _ (_ | deeper)
    exact inside.starts _ deeper
  · rintro _ (_ | deeper)
    exact inside.stops _ deeper

theorem Between.record {entries : List (String × Capture)} (several : 2 ≤ entries.length)
    (inside : ∀ entry ∈ entries, entry.2.Between text start stop)
    (apart : (entries.map Prod.snd).Pairwise Apart) :
    (Capture.record entries).Between text start stop := by
  constructor
  · rintro inner (_ | _ | ⟨member, deeper⟩)
    · exact ⟨several, apart⟩
    · exact (inside _ member).faithful inner deeper
  · rintro _ (_ | _ | ⟨member, deeper⟩)
    exact (inside _ member).starts _ deeper
  · rintro _ (_ | _ | ⟨member, deeper⟩)
    exact (inside _ member).stops _ deeper

theorem Between.list {items : List Capture} (named : ∀ item ∈ items, item.Named)
    (inside : ∀ item ∈ items, item.Between text start stop) (ahead : items.Pairwise Ahead) :
    (Capture.list items).Between text start stop := by
  constructor
  · rintro inner (_ | _ | _ | ⟨member, deeper⟩)
    · exact ⟨named, ahead⟩
    · exact (inside _ member).faithful inner deeper
  · rintro _ (_ | _ | _ | ⟨member, deeper⟩)
    exact (inside _ member).starts _ deeper
  · rintro _ (_ | _ | _ | ⟨member, deeper⟩)
    exact (inside _ member).stops _ deeper

end Capture

namespace Output

open Capture (Ahead Apart Named)

variable {text : String} {start middle stop : Nat}

def Between (text : String) (start stop : Nat) : Output → Prop
  | .text slice => (Capture.atom slice).Between text start stop
  | .fields entries => entries ≠ [] ∧ (∀ entry ∈ entries, entry.2.Between text start stop) ∧
      (entries.map Prod.snd).Pairwise Apart
  | .list items => (∀ item ∈ items, item.Named) ∧ (∀ item ∈ items, item.Between text start stop) ∧
      items.Pairwise Ahead

theorem Between.toCapture {output : Output} (between : output.Between text start stop) :
    output.toCapture.Between text start stop := by
  match output with
  | .text slice => exact between
  | .fields [] => exact (between.1 rfl).elim
  | .fields [entry] => exact .tagged (between.2.1 entry List.mem_cons_self)
  | .fields (first :: second :: rest) =>
      have several : 2 ≤ (first :: second :: rest).length := by
        rw [List.length_cons, List.length_cons]
        omega
      exact .record several between.2.1 between.2.2
  | .list items => exact .list between.1 between.2.1 between.2.2

theorem named_toCapture {entries : List (String × Capture)} (some : entries ≠ []) :
    (fields entries).toCapture.Named := by
  match entries with
  | [] => exact (some rfl).elim
  | [(name, value)] => exact .tagged name value
  | first :: second :: rest => exact .record (first :: second :: rest)

theorem Between.widen {start' stop' : Nat} {output : Output}
    (between : output.Between text start stop) (before : start' ≤ start) (behind : stop ≤ stop') :
    output.Between text start' stop' := by
  cases output with
  | text slice => exact Capture.Between.widen between before behind
  | fields entries =>
      obtain ⟨some, inside, apart⟩ := between
      exact ⟨some, fun entry member => (inside entry member).widen before behind, apart⟩
  | list items =>
      obtain ⟨named, inside, ahead⟩ := between
      exact ⟨named, fun item member => (inside item member).widen before behind, ahead⟩

theorem perm_of_mergeFields {entries more merged : List (String × Capture)}
    (done : mergeFields entries more = .ok merged) : merged.Perm (entries ++ more) := by
  induction more generalizing entries with
  | nil =>
      cases done
      rw [List.append_nil]
  | cons entry rest ih =>
      rw [mergeFields] at done
      split at done
      · cases done
      next new =>
        have absent : entry.1 ∉ Entries.names entries := mt Entries.contains_iff.mpr new
        calc
          merged.Perm (Entries.insert entry.1 entry.2 entries ++ rest) := ih done
          List.Perm _ (entry :: (entries ++ rest)) := (Entries.insert_perm absent).append_right rest
          List.Perm _ (entries ++ entry :: rest) := List.perm_middle.symm

theorem Between.roundItems {output : Output} (between : output.Between text start stop) :
    (list output.roundItems).Between text start stop := by
  cases output with
  | text slice =>
      exact ⟨List.forall_mem_nil _, List.forall_mem_nil _, .nil⟩
  | fields entries =>
      refine ⟨?_, ?_, List.pairwise_singleton _ _⟩
      · exact List.forall_mem_singleton.mpr (named_toCapture between.1)
      · exact List.forall_mem_singleton.mpr between.toCapture
  | list items => exact between

/-! Two yields next to each other. The first goes up to where the second begins, so that the captures
of the first are in front of those of the second. -/

section

variable (ordered : start ≤ middle) (ordered' : middle ≤ stop)

include ordered ordered'

theorem Between.append {items more : List Capture} (one : (list items).Between text start middle)
    (two : (list more).Between text middle stop) :
    (list (items ++ more)).Between text start stop := by
  refine ⟨List.forall_mem_append.mpr ⟨one.1, two.1⟩, ?_, ?_⟩
  · refine List.forall_mem_append.mpr ⟨fun item member => ?_, fun item member => ?_⟩
    · exact (one.2.1 item member).widen (Nat.le_refl start) ordered'
    · exact (two.2.1 item member).widen ordered (Nat.le_refl stop)
  · refine List.pairwise_append.mpr ⟨one.2.2, two.2.2, fun item inFirst other inSecond => ?_⟩
    exact (one.2.1 item inFirst).ahead (two.2.1 other inSecond)

theorem Between.mergeFields {entries more merged : List (String × Capture)}
    (one : (fields entries).Between text start middle)
    (two : (fields more).Between text middle stop)
    (done : mergeFields entries more = .ok merged) :
    (fields merged).Between text start stop := by
  have perm := perm_of_mergeFields done
  refine ⟨?_, fun entry member => ?_, ?_⟩
  · rintro rfl
    exact one.1 (List.append_eq_nil_iff.mp perm.nil_eq.symm).1
  · rcases List.mem_append.mp (perm.mem_iff.mp member) with front | back
    · exact (one.2.1 entry front).widen (Nat.le_refl start) ordered'
    · exact (two.2.1 entry back).widen ordered (Nat.le_refl stop)
  · refine ((perm.map Prod.snd).pairwise_iff Apart.symm).mpr ?_
    rw [List.map_append, List.pairwise_append]
    refine ⟨one.2.2, two.2.2, ?_⟩
    simp only [List.mem_map]
    rintro _ ⟨entry, inFirst, rfl⟩ _ ⟨other, inSecond, rfl⟩
    exact ((one.2.1 entry inFirst).ahead (two.2.1 other inSecond)).apart

theorem Between.merge {first second merged : Output} (one : first.Between text start middle)
    (two : second.Between text middle stop) (done : merge first second = .ok merged) :
    merged.Between text start stop := by
  cases merges_of_merge done with
  | textInFront => exact two.widen ordered (Nat.le_refl stop)
  | textBehind => exact one.widen (Nat.le_refl start) ordered'
  | fields joined => exact one.mergeFields ordered ordered' two joined
  | lists => exact one.append ordered ordered' two
  | listFields => exact one.append ordered ordered' two.roundItems
  | fieldsList => exact one.roundItems.append ordered ordered' two

end

inductive Row (text : String) : Nat → List Output → Nat → Prop
  | nil {start stop : Nat} : start ≤ stop → Row text start [] stop
  | cons {start middle stop : Nat} {output : Output} {outputs : List Output} : start ≤ middle →
      output.Between text start middle → Row text middle outputs stop →
      Row text start (output :: outputs) stop

variable {output : Output} {outputs : List Output}

theorem Row.ordered (row : Row text start outputs stop) : start ≤ stop := by
  induction row with
  | nil ordered => exact ordered
  | cons ordered _ _ ih => exact ordered.trans ih

theorem Row.extend {start' : Nat} (row : Row text start outputs stop) (before : start' ≤ start) :
    Row text start' outputs stop := by
  cases row with
  | nil ordered => exact .nil (before.trans ordered)
  | cons ordered between row =>
      exact .cons (before.trans ordered) (between.widen before (Nat.le_refl _)) row

theorem Row.singleton (ordered : start ≤ stop) (between : output.Between text start stop) :
    Row text start [output] stop :=
  .cons ordered between (.nil (Nat.le_refl stop))

theorem Row.of_singleton (row : Row text start [output] stop) : output.Between text start stop := by
  cases row with
  | cons _ between row => exact between.widen (Nat.le_refl start) row.ordered

theorem Row.filter (row : Row text start outputs stop) (kept : Output → Bool) :
    Row text start (outputs.filter kept) stop := by
  induction row with
  | nil ordered => exact .nil ordered
  | cons ordered between _ ih =>
      rw [List.filter_cons]
      split
      · exact .cons ordered between ih
      · exact ih.extend ordered

theorem Row.mergeAll {first : Output} (ordered : start ≤ middle)
    (between : first.Between text start middle) (row : Row text middle outputs stop)
    (done : mergeAll first outputs = .ok output) : output.Between text start stop := by
  induction outputs generalizing first middle with
  | nil =>
      cases done
      exact between.widen (Nat.le_refl start) row.ordered
  | cons next outputs ih =>
      cases row with
      | cons ordered' between' row =>
          obtain ⟨merged, joined, later⟩ := exists_merge_of_mergeAll done
          exact ih (ordered.trans ordered') (between.merge ordered ordered' between' joined) row
            later

theorem Row.ofSequence {cursor next : Cursor}
    (whole : (Output.text (cursor.sliceTo next)).Between text start stop)
    (row : Row text start outputs stop)
    (done : ofSequence cursor next outputs = .ok output) : output.Between text start stop := by
  -- text is left out, so the rest need not touch
  have some := row.filter (!·.isText)
  rw [Output.ofSequence] at done
  split at done
  next =>
    cases done
    exact whole
  next first rest shown =>
    rw [shown] at some
    cases some with
    | cons ordered between row => exact row.mergeAll ordered between done

theorem Row.roundItems (row : Row text start outputs stop) :
    (list (outputs.flatMap Output.roundItems)).Between text start stop := by
  induction row with
  | nil => exact ⟨List.forall_mem_nil _, List.forall_mem_nil _, .nil⟩
  | cons ordered between row ih => exact between.roundItems.merge ordered row.ordered ih rfl

theorem Row.ofRounds {cursor next : Cursor} (structured : Bool)
    (whole : (Output.text (cursor.sliceTo next)).Between text start stop)
    (row : Row text start outputs stop) :
    (ofRounds structured cursor next outputs).Between text start stop := by
  rw [Output.ofRounds]
  split
  · exact whole
  · exact row.roundItems

theorem between_text {cursor next : Cursor} {front passed : List Char}
    (reached : (Cursor.start text).Passes front cursor) (passes : cursor.Passes passed next) :
    (Output.text (cursor.sliceTo next)).Between text cursor.offset next.offset :=
  .atom (reached.cutFrom passes) (Nat.le_refl _) (Nat.le_refl _)

end Output

section

variable {size : Nat} {rules : RuleTable size} {limited : Prop}

open Output (Row between_text)

/-- What a goal yields at a place of a text lies there in a row, up to where the goal ends. -/
theorem RuleTable.Derives.row {text : String} {goal : Goal size} {cursor next : Cursor}
    {front : List Char} {outputs : List Output}
    (derives : rules.Derives limited goal cursor (some (outputs, next)))
    (reached : (Cursor.start text).Passes front cursor) :
    Row text cursor.offset outputs next.offset := by
  generalize ended : some (outputs, next) = result at derives
  induction derives generalizing outputs next front with
  | gaveUp | literalFails | charFails | charClassFails | anyFails | sequenceFails
  | repetitionFails | absentFails | captureFails | partsFail | partsFailLater | branchesNil =>
      cases ended
  | literal passes | char passes | charClass _ passes | any passes =>
      cases ended
      exact .singleton (passes.offset ▸ Nat.le_add_right _ _) (between_text reached passes)
  | sequence inside merged ih =>
      cases ended
      have row := ih reached rfl
      obtain ⟨passed, passes⟩ := inside.passes
      exact .singleton row.ordered (row.ofSequence (between_text reached passes) merged)
  | choice _ ih | rule _ ih | branchesLater _ _ _ ih => exact ih reached ended
  | repetition inside _ ih =>
      cases ended
      have row := ih reached rfl
      obtain ⟨passed, passes⟩ := inside.passes
      exact .singleton row.ordered (row.ofRounds _ (between_text reached passes))
  | absent =>
      cases ended
      exact .singleton (Nat.le_refl _) (between_text reached (.refl _))
  | capture _ ih =>
      cases ended
      have row := ih reached rfl
      refine .singleton row.ordered ⟨List.cons_ne_nil _ _, ?_, List.pairwise_singleton _ _⟩
      exact List.forall_mem_singleton.mpr row.of_singleton.toCapture
  | partsNil | roundsFull | roundsEnd =>
      cases ended
      exact .nil (Nat.le_refl _)
  | partsCons one _ first later | roundsMore _ one _ _ first later =>
      cases ended
      obtain ⟨passed, passes⟩ := one.passes
      have here := first reached rfl
      exact .cons here.ordered here.of_singleton (later (reached.trans passes) rfl)
  | branchesFirst _ ih | roundsEmpty _ _ _ ih =>
      cases ended
      exact ih reached rfl

theorem RuleTable.Matches.faithful {node : Node size} {text : String} {output : Output}
    {next : Cursor} (found : rules.Matches node (.start text) output next) :
    output.toCapture.Faithful text :=
  (RuleTable.Derives.row found (.refl (.start text))).of_singleton.toCapture.faithful

end

/-- The tree of a parse is faithful to its text: every atom was cut from where it says, the fields
of a record do not overlap and there are at least two of them, and the items of a list are tagged or
records, in the order of the text. -/
theorem Grammar.Draft.faithful_of_parseNested {read : CharClass.Reader} {draft : Draft}
    {grammar : Grammar} (built : draft.build? read = some (.ok grammar)) {rule : Option String}
    {source : Source} {limit : Nat} {capture : Capture}
    (parsed : grammar.parseNested rule source limit = .ok capture) :
    capture.Faithful source.text := by
  obtain ⟨facts, accepted⟩ := accepted_of_build? built
  obtain ⟨id, output, stop, -, -, found, -, rfl⟩ := (parseNested_eq_ok accepted).mp parsed
  have row := RuleTable.Derives.row found (.refl (.start source.text))
  exact row.of_singleton.toCapture.faithful

theorem Grammar.Draft.faithful_of_parseNested_table :
    table.build? CharClass.read = some (.ok tableGrammar) ∧
      ∃ capture, tableGrammar.parseNested none (.ofInput "éa,b(cd)") 20 = .ok capture ∧
        capture.kind = "list" ∧ capture.span? = some ⟨0, 8⟩ ∧ capture.Faithful "éa,b(cd)" := by
  have shown : (tableGrammar.parseNested none (.ofInput "éa,b(cd)") 20).toOption.map
      (fun capture => (capture.kind, capture.span?)) = some ("list", some ⟨0, 8⟩) := by
    decide +kernel
  cases parsed : tableGrammar.parseNested none (.ofInput "éa,b(cd)") 20 with
  | error diagnostic =>
      rw [parsed] at shown
      cases shown
  | ok capture =>
      rw [parsed] at shown
      obtain ⟨kind, span⟩ := Prod.mk.inj (Option.some.inj shown)
      exact ⟨build?_table, capture, rfl, kind, span, faithful_of_parseNested build?_table parsed⟩

end PegText
