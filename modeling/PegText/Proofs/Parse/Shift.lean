import PegText.Proofs.Parse.Semantics

/-!
A match does not look behind the place it starts at. With more text in front of its input a run goes
the same way, and everything that it says about places, the end of the match, the spans of what it
captured, and where it failed, moves along by the bytes of that text.
-/

namespace PegText

variable {size : Nat} {bytes : Nat}

def Cursor.shift (bytes : Nat) (cursor : Cursor) : Cursor := ⟨bytes + cursor.offset, cursor.rest⟩

def Slice.shift (bytes : Nat) (slice : Slice) : Slice := ⟨slice.text, slice.span.shift bytes⟩

namespace Capture

mutual

def shift (bytes : Nat) : Capture → Capture
  | atom slice => atom (slice.shift bytes)
  | tagged name value => tagged name (value.shift bytes)
  | record entries => record (shiftEntries bytes entries)
  | list items => list (shiftItems bytes items)

def shiftEntries (bytes : Nat) : List (String × Capture) → List (String × Capture)
  | [] => []
  | (name, value) :: rest => (name, value.shift bytes) :: shiftEntries bytes rest

def shiftItems (bytes : Nat) : List Capture → List Capture
  | [] => []
  | item :: rest => item.shift bytes :: shiftItems bytes rest

end

theorem shiftItems_eq_map (items : List Capture) :
    shiftItems bytes items = items.map (shift bytes) := by
  induction items with
  | nil => rfl
  | cons item rest ih => rw [shiftItems, ih, List.map_cons]

theorem contains_shiftEntries (name : String) (entries : List (String × Capture)) :
    Entries.contains name (shiftEntries bytes entries) = Entries.contains name entries := by
  induction entries with
  | nil => rfl
  | cons entry rest ih =>
      simp only [Entries.contains] at ih
      simp [shiftEntries, Entries.contains, ih]

theorem insert_shiftEntries (name : String) (value : Capture)
    (entries : List (String × Capture)) :
    Entries.insert name (value.shift bytes) (shiftEntries bytes entries) =
      shiftEntries bytes (Entries.insert name value entries) := by
  induction entries with
  | nil => rfl
  | cons entry rest ih =>
      simp only [shiftEntries, Entries.insert]
      by_cases before : name < entry.1
      · simp [before, shiftEntries]
      · by_cases same : name = entry.1
        · simp [same, shiftEntries]
        · simp [before, same, shiftEntries, ih]

end Capture

def Output.shift (bytes : Nat) : Output → Output
  | text slice => text (slice.shift bytes)
  | fields entries => fields (Capture.shiftEntries bytes entries)
  | list items => list (Capture.shiftItems bytes items)

def Failure.shift (bytes : Nat) (failure : Failure) : Failure :=
  ⟨bytes + failure.position, failure.expected⟩

def Outcome.shift (bytes : Nat) : Outcome → Outcome
  | matched output next => matched (output.shift bytes) (next.shift bytes)
  | failed failure => failed (failure.shift bytes)

theorem Cursor.sliceTo_shift (cursor next : Cursor) :
    (cursor.shift bytes).sliceTo (next.shift bytes) = (cursor.sliceTo next).shift bytes := by
  have width : bytes + next.offset - (bytes + cursor.offset) = next.offset - cursor.offset := by
    omega
  simp [Cursor.sliceTo, Cursor.shift, Slice.shift, Cursor.spanTo, Span.shift, width]

namespace Output

@[simp]
theorem isText_shift (output : Output) : (output.shift bytes).isText = output.isText := by
  cases output <;> rfl

theorem toCapture_shift (output : Output) :
    (output.shift bytes).toCapture = output.toCapture.shift bytes := by
  cases output with
  | text | list => rfl
  | fields entries =>
      match entries with
      | [] => rfl
      | [(_, _)] => rfl
      | (_, _) :: (_, _) :: _ => rfl

theorem toCapture_shiftEntries (entries : List (String × Capture)) :
    (fields (Capture.shiftEntries bytes entries)).toCapture =
      (fields entries).toCapture.shift bytes :=
  toCapture_shift (fields entries)

theorem mergeFields_shift (entries more : List (String × Capture)) :
    mergeFields (Capture.shiftEntries bytes entries) (Capture.shiftEntries bytes more) =
      (mergeFields entries more).map (Capture.shiftEntries bytes) := by
  induction more generalizing entries with
  | nil => rfl
  | cons entry rest ih =>
      rw [Capture.shiftEntries, mergeFields, mergeFields, Capture.contains_shiftEntries]
      by_cases known : Entries.contains entry.1 entries = true
      · simp [known, Except.map]
      · simp only [known, Bool.false_eq_true, if_false]
        rw [Capture.insert_shiftEntries]
        exact ih _

theorem merge_shift (first second : Output) :
    merge (first.shift bytes) (second.shift bytes) = (merge first second).map (shift bytes) := by
  cases first with
  | text => rfl
  | fields entries =>
      cases second with
      | text => rfl
      | fields more =>
          simp only [shift, merge, mergeFields_shift]
          cases mergeFields entries more <;> rfl
      | list items =>
          simp [shift, merge, toCapture_shiftEntries, Capture.shiftItems, Except.map]
  | list items =>
      cases second with
      | text => rfl
      | fields entries =>
          simp [shift, merge, toCapture_shiftEntries, Capture.shiftItems_eq_map, Except.map]
      | list more => simp [shift, merge, Capture.shiftItems_eq_map, Except.map]

theorem mergeAll_shift (first : Output) (rest : List Output) :
    mergeAll (first.shift bytes) (rest.map (shift bytes)) =
      (mergeAll first rest).map (shift bytes) := by
  induction rest generalizing first with
  | nil => rfl
  | cons next rest ih =>
      rw [List.map_cons, mergeAll, mergeAll, merge_shift]
      cases merge first next with
      | error name => rfl
      | ok merged => exact ih merged

theorem ofSequence_shift (start stop : Cursor) (parts : List Output) :
    ofSequence (start.shift bytes) (stop.shift bytes) (parts.map (shift bytes)) =
      (ofSequence start stop parts).map (shift bytes) := by
  have kept : (parts.map (shift bytes)).filter (!·.isText) =
      (parts.filter (!·.isText)).map (shift bytes) := by
    rw [List.filter_map]
    simp [Function.comp_def]
  rw [ofSequence, ofSequence, kept]
  cases parts.filter (!·.isText) with
  | nil => simp [Cursor.sliceTo_shift, Except.map, shift]
  | cons first rest => exact mergeAll_shift first rest

theorem roundItems_shift (output : Output) :
    roundItems (output.shift bytes) = (roundItems output).map (Capture.shift bytes) := by
  cases output with
  | text => rfl
  | fields entries =>
      simp [shift, roundItems, toCapture_shiftEntries]
  | list items => exact Capture.shiftItems_eq_map items

theorem ofRounds_shift (structured : Bool) (start stop : Cursor) (rounds : List Output) :
    ofRounds structured (start.shift bytes) (stop.shift bytes) (rounds.map (shift bytes)) =
      (ofRounds structured start stop rounds).shift bytes := by
  have texts : (rounds.map (shift bytes)).all isText = rounds.all isText := by
    simp [List.all_map, Function.comp_def]
  have items : (rounds.map (shift bytes)).flatMap roundItems =
      (rounds.flatMap roundItems).map (Capture.shift bytes) := by
    simp [List.flatMap_map, List.map_flatMap, roundItems_shift]
  rw [ofRounds, ofRounds, texts, items]
  split
  · rw [Cursor.sliceTo_shift, shift]
  · rw [shift, Capture.shiftItems_eq_map]

end Output

/-- A likeness of the progress of two runs, the second with `bytes` more in front, that lasts as
long as both do the same. -/
structure Progress.Moving (bytes : Nat) (alike : Progress → Progress → Prop) : Prop where
  exceeded : ∀ {progress other}, alike progress other →
    other.exceeded = progress.exceeded.map (bytes + ·)
  exceed : ∀ {progress other}, alike progress other → ∀ position,
    alike { progress with exceeded := some position }
      { other with exceeded := some (bytes + position) }
  note : ∀ {progress other}, alike progress other → ∀ position expected,
    alike (progress.note position expected) (other.note (bytes + position) expected)
  enter : ∀ {progress other}, alike progress other →
    alike progress.enterLookahead other.enterLookahead
  leave : ∀ {progress other}, alike progress other →
    alike progress.leaveLookahead other.leaveLookahead

namespace Progress

def Moves {α : Type} (alike : Progress → Progress → Prop) (move : α → α)
    (first second : α × Progress) : Prop :=
  second.1 = move first.1 ∧ alike first.2 second.2

theorem Moves.exists_answers {α : Type} {alike : Progress → Progress → Prop} {move : α → α}
    {first second : α × Progress} (moves : Moves alike move first second) :
    ∃ answer after after', first = (answer, after) ∧ second = (move answer, after') ∧
      alike after after' := by
  obtain ⟨answer, after⟩ := first
  obtain ⟨answer', after'⟩ := second
  obtain ⟨same, like⟩ := moves
  simp only at same
  subst same
  exact ⟨answer, after, after', rfl, rfl, like⟩

theorem Moving.fail {alike : Progress → Progress → Prop} (moving : Moving bytes alike)
    {progress other : Progress} (like : alike progress other) (cursor : Cursor)
    (expected : String) :
    Moves alike (Outcome.shift bytes) (progress.fail cursor expected)
      (other.fail (cursor.shift bytes) expected) :=
  ⟨rfl, moving.note like cursor.offset expected⟩

theorem Moving.exceeds {alike : Progress → Progress → Prop} (moving : Moving bytes alike)
    {progress other : Progress} (like : alike progress other) (cursor : Cursor) :
    Moves alike (Outcome.shift bytes) (progress.exceed cursor)
      (other.exceed (cursor.shift bytes)) := by
  have position : other.exceeded.getD (cursor.shift bytes).offset =
      bytes + progress.exceeded.getD cursor.offset := by
    rw [moving.exceeded like]
    cases progress.exceeded <;> rfl
  constructor
  · simp only [Progress.exceed, position]
    rfl
  · simp only [Progress.exceed, position]
    exact moving.exceed like _

/-- Nothing is known of the progress but where the limit was exceeded. -/
theorem moving_exceeded (bytes : Nat) :
    Moving bytes fun progress other => other.exceeded = progress.exceeded.map (bytes + ·) where
  exceeded same := same
  exceed _ _ := rfl
  note same position expected := by rw [exceeded_note, exceeded_note, same]
  enter same := same
  leave same := same

/-- What was learnt about a text, and what was learnt about it with `bytes` more in front. As long
as nothing was expected anywhere, both stand at the beginning. -/
structure Shifted (bytes : Nat) (progress other : Progress) : Prop where
  furthest : other.furthest = bytes + progress.furthest ∨
    progress.expected = [] ∧ progress.furthest = 0 ∧ other.furthest = 0
  expected : other.expected = progress.expected
  lookahead : other.lookahead = progress.lookahead
  exceeded : other.exceeded = progress.exceeded.map (bytes + ·)

theorem shifted_initial (bytes : Nat) : Shifted bytes initial initial :=
  ⟨.inr ⟨rfl, rfl, rfl⟩, rfl, rfl, rfl⟩

/-- The first thing that is expected anywhere is noted wherever that is. -/
theorem note_first {progress : Progress} (listening : progress.lookahead = 0)
    (nothing : progress.expected = []) (atStart : progress.furthest = 0) (position : Nat)
    (expected : String) :
    progress.note position expected =
      { progress with furthest := position, expected := [expected] } := by
  by_cases same : position = 0
  · simp [note, listening, nothing, atStart, same, Names.insert]
  · simp [note, listening, atStart, same]

theorem shifted_note {progress other : Progress} (shifted : Shifted bytes progress other)
    (position : Nat) (expected : String) :
    Shifted bytes (progress.note position expected) (other.note (bytes + position) expected) := by
  obtain ⟨furthest, same, lookahead, exceeded⟩ := shifted
  by_cases listening : progress.lookahead = 0
  · have listening' : other.lookahead = 0 := by omega
    rcases furthest with further | ⟨nothing, atStart, atStart'⟩
    · have before : bytes + position < other.furthest ↔ position < progress.furthest := by omega
      have here : bytes + position = other.furthest ↔ position = progress.furthest := by omega
      simp only [note, listening, listening', ne_eq, not_true_eq_false, false_or, before, here]
      split
      · exact ⟨.inl further, same, lookahead, exceeded⟩
      · split
        · exact ⟨.inl further, congrArg (Names.insert expected) same, rfl, exceeded⟩
        · exact ⟨.inl rfl, rfl, rfl, exceeded⟩
    · have nothing' : other.expected = [] := same.trans nothing
      rw [note_first listening nothing atStart, note_first listening' nothing' atStart']
      exact ⟨.inl rfl, rfl, lookahead, exceeded⟩
  · have looking : progress.lookahead ≠ 0 ∨ position < progress.furthest := .inl listening
    have looking' : other.lookahead ≠ 0 ∨ bytes + position < other.furthest := by omega
    rw [note, note, if_pos looking, if_pos looking']
    exact ⟨furthest, same, lookahead, exceeded⟩

theorem moving_shifted (bytes : Nat) : Moving bytes (Shifted bytes) where
  exceeded shifted := shifted.exceeded
  exceed shifted _ := ⟨shifted.furthest, shifted.expected, shifted.lookahead, rfl⟩
  note := shifted_note
  enter shifted :=
    ⟨shifted.furthest, shifted.expected, congrArg (· + 1) shifted.lookahead, shifted.exceeded⟩
  leave shifted :=
    ⟨shifted.furthest, shifted.expected, congrArg (· - 1) shifted.lookahead, shifted.exceeded⟩

end Progress

theorem Failure.deeper_shift (deepest : Option Failure) (failure : Failure) :
    Failure.deeper (deepest.map (Failure.shift bytes)) (failure.shift bytes) =
      (Failure.deeper deepest failure).shift bytes := by
  cases deepest with
  | none => rfl
  | some first =>
      have before : bytes + first.position < bytes + failure.position ↔
          first.position < failure.position := by
        omega
      simp only [Option.map_some, Failure.deeper, Failure.shift, before]
      split <;> rfl

namespace Runner

def shiftParts (bytes : Nat) :
    Except Failure (List Output × Cursor) → Except Failure (List Output × Cursor)
  | .ok (outputs, stop) => .ok (outputs.map (Output.shift bytes), stop.shift bytes)
  | .error failure => .error (failure.shift bytes)

def Rounds.shift (bytes : Nat) (rounds : Rounds) : Rounds :=
  ⟨rounds.outputs.map (Output.shift bytes), rounds.stop.shift bytes,
    rounds.failure.map (Failure.shift bytes)⟩

theorem rounds_ended (outputs : List Output) (stop : Cursor) (failure : Option Failure) :
    (⟨(outputs.map (Output.shift bytes)).reverse, stop.shift bytes,
        failure.map (Failure.shift bytes)⟩ : Rounds) =
      Rounds.shift bytes ⟨outputs.reverse, stop, failure⟩ := by
  rw [Rounds.shift, List.map_reverse]

section

variable {run : Runner size} {alike : Progress → Progress → Prop}
  (moving : Progress.Moving bytes alike)
  (moves : ∀ node cursor {progress other}, alike progress other →
    Progress.Moves alike (Outcome.shift bytes) (run node cursor progress)
      (run node (cursor.shift bytes) other))

include moves

theorem parts_moves (parts : List (Node size)) (cursor : Cursor) {progress other : Progress}
    (like : alike progress other) :
    Progress.Moves alike (shiftParts bytes) (run.parts parts cursor progress)
      (run.parts parts (cursor.shift bytes) other) := by
  induction parts generalizing cursor progress other with
  | nil => exact ⟨rfl, like⟩
  | cons part rest ih =>
      obtain ⟨outcome, between, between', ran, ran', likeBetween⟩ :=
        (moves part cursor like).exists_answers
      rw [Runner.parts, Runner.parts, ran, ran']
      cases outcome with
      | failed failure => exact ⟨rfl, likeBetween⟩
      | matched output next =>
          obtain ⟨ended, after, after', ranLater, ranLater', likeAfter⟩ :=
            (ih next likeBetween).exists_answers
          simp only [Outcome.shift, ranLater, ranLater']
          cases ended <;> exact ⟨rfl, likeAfter⟩

include moving in
theorem branches_moves (cursor : Cursor) (branches : List (Node size)) (deepest : Option Failure)
    {progress other : Progress} (like : alike progress other) :
    Progress.Moves alike (Outcome.shift bytes) (run.branches cursor branches deepest progress)
      (run.branches (cursor.shift bytes) branches (deepest.map (Failure.shift bytes)) other) := by
  induction branches generalizing deepest progress other with
  | nil =>
      cases deepest with
      | none => exact moving.fail like cursor _
      | some deepest => exact ⟨rfl, like⟩
  | cons branch rest ih =>
      obtain ⟨outcome, between, between', ran, ran', likeBetween⟩ :=
        (moves branch cursor like).exists_answers
      rw [Runner.branches, Runner.branches, ran, ran']
      cases outcome with
      | matched output next => exact ⟨rfl, likeBetween⟩
      | failed failure =>
          have later := ih (some (.deeper deepest failure)) likeBetween
          rw [Option.map_some, ← Failure.deeper_shift] at later
          exact later

theorem rounds_moves (inner : Node size) (most : Option Nat) (bound : List Char) (count : Nat)
    (outputs : List Output) (cursor : Cursor) {progress other : Progress}
    (like : alike progress other) :
    Progress.Moves alike (Rounds.shift bytes)
      (run.rounds inner most bound count outputs cursor progress)
      (run.rounds inner most bound count (outputs.map (Output.shift bytes)) (cursor.shift bytes)
        other) := by
  have first {cursor : Cursor} {progress other between : Progress} {outcome : Outcome}
      (like : alike progress other) (ran : run inner cursor progress = (outcome, between)) :
      ∃ between', run inner (cursor.shift bytes) other = (outcome.shift bytes, between') ∧
        alike between between' := by
    obtain ⟨_, _, between', same, ran', likeBetween⟩ := (moves inner cursor like).exists_answers
    cases ran.symm.trans same
    exact ⟨between', ran', likeBetween⟩
  have still (next cursor : Cursor) :
      (next.shift bytes).offset = (cursor.shift bytes).offset ↔ next.offset = cursor.offset := by
    simp [Cursor.shift]
  fun_induction Runner.rounds run inner most bound count outputs cursor progress
    generalizing other with
  | case1 _ _ outputs cursor _ full =>
      rw [rounds_full full]
      exact ⟨rounds_ended outputs cursor none, like⟩
  | case2 _ _ outputs cursor _ notFull failure _ ran =>
      obtain ⟨_, ran', likeBetween⟩ := first like ran
      rw [rounds_failed notFull ran']
      exact ⟨rounds_ended outputs cursor (some failure), likeBetween⟩
  | case3 _ _ outputs cursor _ notFull output next _ ran same =>
      obtain ⟨_, ran', likeBetween⟩ := first like ran
      rw [rounds_last notFull ran' (.inl ((still next cursor).mpr same))]
      exact ⟨rounds_ended (output :: outputs) next none, likeBetween⟩
  | case4 _ outputs _ _ notFull output next _ ran =>
      obtain ⟨_, ran', likeBetween⟩ := first like ran
      rw [rounds_last notFull ran' (.inr rfl)]
      exact ⟨rounds_ended (output :: outputs) next none, likeBetween⟩
  | case5 _ _ cursor _ notFull _ next _ ran further c _ ih =>
      obtain ⟨_, ran', likeBetween⟩ := first like ran
      rw [rounds_further notFull ran' (further ∘ (still next cursor).mp)]
      exact ih likeBetween

include moving in
omit moves in
theorem leaf_moves (rules : RuleTable size) {node : Node size} (leaf : node.IsLeaf)
    (cursor : Cursor) {progress other : Progress} (like : alike progress other) :
    Progress.Moves alike (Outcome.shift bytes) (run.node rules node cursor progress)
      (run.node rules node (cursor.shift bytes) other) := by
  have failed (expected : String) := moving.fail like cursor expected
  have consumed (rest : List Char) (width : Nat) :
      Progress.Moves alike (Outcome.shift bytes)
        (.matched (.text (cursor.sliceTo ⟨cursor.offset + width, rest⟩))
          ⟨cursor.offset + width, rest⟩, progress)
        (.matched (.text ((cursor.shift bytes).sliceTo ⟨bytes + cursor.offset + width, rest⟩))
          ⟨bytes + cursor.offset + width, rest⟩, other) := by
    have there : (⟨bytes + cursor.offset + width, rest⟩ : Cursor) =
        Cursor.shift bytes ⟨cursor.offset + width, rest⟩ := by
      simp [Cursor.shift, Nat.add_assoc]
    rw [there, Cursor.sliceTo_shift]
    exact ⟨rfl, like⟩
  cases node with
  | literal text =>
      simp only [Runner.node, Cursor.shift]
      split
      · exact consumed _ _
      · exact failed _
  | char c | charClass text accepts =>
      simp only [Runner.node, Cursor.shift]
      split
      · split
        · exact consumed _ _
        · exact failed _
      · exact failed _
  | any =>
      simp only [Runner.node, Cursor.shift]
      split
      · exact consumed _ _
      · exact failed _
  | sequence | choice | repetition | absent | capture | rule => exact leaf.elim

include moving in
theorem node_moves (rules : RuleTable size) (node : Node size) (cursor : Cursor)
    {progress other : Progress} (like : alike progress other) :
    Progress.Moves alike (Outcome.shift bytes) (run.node rules node cursor progress)
      (run.node rules node (cursor.shift bytes) other) := by
  have leaf (isLeaf : node.IsLeaf) :
      Progress.Moves alike (Outcome.shift bytes) (run.node rules node cursor progress)
        (run.node rules node (cursor.shift bytes) other) :=
    leaf_moves moving rules isLeaf cursor like
  cases node with
  | literal | char | charClass | any => exact leaf trivial
  | sequence parts =>
      obtain ⟨ended, after, after', ran, ran', likeAfter⟩ :=
        (parts_moves moves parts cursor like).exists_answers
      simp only [Runner.node, ran, ran']
      cases ended with
      | error failure => exact ⟨rfl, likeAfter⟩
      | ok yielded =>
          simp only [shiftParts, Output.ofSequence_shift]
          cases Output.ofSequence cursor yielded.2 yielded.1 with
          | ok output => exact ⟨rfl, likeAfter⟩
          | error name => exact moving.fail likeAfter cursor _
  | choice branches => exact branches_moves moving moves cursor branches none like
  | repetition inner least most structured =>
      obtain ⟨rounds, after, after', ran, ran', likeAfter⟩ :=
        (rounds_moves moves inner most cursor.rest 0 [] cursor like).exists_answers
      have rest : (cursor.shift bytes).rest = cursor.rest := rfl
      rw [List.map_nil] at ran'
      simp only [Runner.node, rest, ran, ran', Rounds.shift, List.length_map]
      split
      · cases rounds.failure with
        | some failure => exact ⟨rfl, likeAfter⟩
        | none => exact moving.fail likeAfter rounds.stop _
      · refine ⟨?_, likeAfter⟩
        simp only [Outcome.shift, Output.ofRounds_shift]
  | absent inner =>
      obtain ⟨outcome, after, after', ran, ran', likeAfter⟩ :=
        (moves inner cursor (moving.enter like)).exists_answers
      simp only [Runner.node, ran, ran']
      cases outcome with
      | matched output next => exact moving.fail (moving.leave likeAfter) cursor _
      | failed failure =>
          refine ⟨?_, moving.leave likeAfter⟩
          simp only [Outcome.shift, Output.shift, Cursor.sliceTo_shift]
  | capture name inner =>
      obtain ⟨outcome, after, after', ran, ran', likeAfter⟩ :=
        (moves inner cursor like).exists_answers
      simp only [Runner.node, ran, ran']
      cases outcome with
      | failed failure => exact ⟨rfl, likeAfter⟩
      | matched output next =>
          refine ⟨?_, likeAfter⟩
          simp only [Outcome.shift, Output.toCapture_shift]
          rfl
  | rule id => exact moves _ cursor like

end

end Runner

namespace RuleTable

theorem run_moves {alike : Progress → Progress → Prop} (moving : Progress.Moving bytes alike)
    (rules : RuleTable size) (levels : Nat) (node : Node size) (cursor : Cursor)
    {progress other : Progress} (like : alike progress other) :
    Progress.Moves alike (Outcome.shift bytes) (rules.run levels node cursor progress)
      (rules.run levels node (cursor.shift bytes) other) := by
  induction levels generalizing node cursor progress other with
  | zero => exact moving.exceeds like cursor
  | succ levels ih =>
      rw [run_succ, run_succ, moving.exceeded like, Option.isSome_map]
      split
      · exact moving.exceeds like cursor
      · exact Runner.node_moves moving (fun node cursor _ _ like => ih node cursor like) rules node
          cursor like

end RuleTable

theorem Cursor.advance_shift (front : String) {text : String} {place : Nat}
    (boundary : String.Pos.Raw.IsValid text ⟨place⟩) :
    (start (front ++ text)).advance (front.utf8ByteSize + place) =
      ((start text).advance place).shift front.utf8ByteSize := by
  obtain ⟨before, behind, rfl, same⟩ := String.Pos.Raw.isValid_iff_exists_append.mp boundary
  have width : place = String.utf8Len before.toList := by
    rw [String.utf8Len_toList]
    exact congrArg String.Pos.Raw.byteIdx same
  have here : (start (before ++ behind)).Passes before.toList
      ⟨String.utf8Len before.toList, behind.toList⟩ := by
    constructor
    · simp [start]
    · simp [start]
  have there : (start (front ++ (before ++ behind))).Passes (front.toList ++ before.toList)
      ⟨front.utf8ByteSize + String.utf8Len before.toList, behind.toList⟩ := by
    constructor
    · simp [start]
    · simp [start]
  have moved := there.advance
  rw [String.utf8Len_append, String.utf8Len_toList front] at moved
  rw [width, here.advance, moved]
  rfl

/-- With `front` before the text, and whatever was noted of either text so far, a node that is run
from the same place ends in the same way: it matches where it matched, or fails where it failed,
with the same captured texts and the same expectation, and with every position larger by the bytes
of `front`. Where what was noted before agrees but for these bytes, so does what is noted after. -/
theorem RuleTable.run_shift (rules : RuleTable size) (front : String) {text : String} {place : Nat}
    (boundary : String.Pos.Raw.IsValid text ⟨place⟩) (levels : Nat) (node : Node size)
    {progress other : Progress} (fine : progress.exceeded = none)
    (fineOther : other.exceeded = none) :
    let here := rules.run levels node ((Cursor.start text).advance place) progress
    let there := rules.run levels node
      ((Cursor.start (front ++ text)).advance (front.utf8ByteSize + place)) other
    there.1 = here.1.shift front.utf8ByteSize ∧
      (Progress.Shifted front.utf8ByteSize progress other →
        Progress.Shifted front.utf8ByteSize here.2 there.2) := by
  intro here there
  have like : other.exceeded = progress.exceeded.map (front.utf8ByteSize + ·) := by
    rw [fine, fineOther, Option.map_none]
  have outcome := rules.run_moves (Progress.moving_exceeded front.utf8ByteSize) levels node
    ((Cursor.start text).advance place) like
  have noted (shifted : Progress.Shifted front.utf8ByteSize progress other) :=
    rules.run_moves (Progress.moving_shifted front.utf8ByteSize) levels node
      ((Cursor.start text).advance place) shifted
  rw [← Cursor.advance_shift front boundary] at outcome noted
  exact ⟨outcome.1, fun shifted => (noted shifted).2⟩

namespace Grammar.Draft

def nestedEntry (place : Nat) : Output :=
  .fields
    [("key", .atom ⟨"b", place, place + 1⟩),
      ("value",
        .list
          [.record
            [("key", .atom ⟨"c", place + 2, place + 3⟩),
              ("value", .atom ⟨"d", place + 3, place + 4⟩)]])]

/-- The same entry behind one entry and behind two, with something else noted before or nothing. -/
theorem run_shift_table :
    String.Pos.Raw.IsValid "éa,b(cd)" ⟨4⟩ ∧ Progress.initial.exceeded = none ∧
      lookingAhead.exceeded = none ∧
      (tableRules.run 20 (.rule entryId) ((Cursor.start "éa,b(cd)").advance 4) .initial).1 =
        .matched (nestedEntry 4) ⟨9, []⟩ ∧
      (tableRules.run 20 (.rule entryId)
        ((Cursor.start ("xé," ++ "éa,b(cd)")).advance ("xé,".utf8ByteSize + 4)) lookingAhead).1 =
          .matched (nestedEntry 8) ⟨13, []⟩ ∧
      Progress.Shifted 4
        (tableRules.run 20 (.rule entryId) ((Cursor.start "éa,b(cd)").advance 4) .initial).2
        (tableRules.run 20 (.rule entryId)
          ((Cursor.start ("xé," ++ "éa,b(cd)")).advance ("xé,".utf8ByteSize + 4)) .initial).2 := by
  have boundary : String.Pos.Raw.IsValid "éa,b(cd)" ⟨4⟩ :=
    String.Pos.Raw.isValid_iff_exists_append.mpr ⟨"éa,", "b(cd)", by decide, by decide⟩
  have passes : (Cursor.start "éa,b(cd)").Passes ['é', 'a', ','] ⟨4, ['b', '(', 'c', 'd', ')']⟩ := by
    constructor <;> rfl
  have placed : (Cursor.start "éa,b(cd)").advance 4 = ⟨4, ['b', '(', 'c', 'd', ')']⟩ :=
    passes.advance
  have here : (tableRules.run 20 (.rule entryId) ((Cursor.start "éa,b(cd)").advance 4)
      .initial).1 = .matched (nestedEntry 4) ⟨9, []⟩ := by
    rw [placed]
    rfl
  have fine : Progress.initial.exceeded = none := rfl
  have fineOther : lookingAhead.exceeded = none := rfl
  have shifted := tableRules.run_shift "xé," boundary 20 (.rule entryId) fine fineOther
  have noted := tableRules.run_shift "xé," boundary 20 (.rule entryId) fine fine
  refine ⟨boundary, fine, fineOther, here, ?_, noted.2 (Progress.shifted_initial _)⟩
  rw [shifted.1, here]
  rfl

end Grammar.Draft

end PegText
