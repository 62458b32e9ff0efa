import PegText.Proofs.Document.Reduction

/-!
A document that was read covers its source: the segments lie one behind the other from its
beginning to its end, text comes only in front, and every block begins where a directive begins
in the source and holds no further one.
-/

namespace PegText.Document

open Language.Directive (Blocks Unopened marker opening opening_eq)
open String (utf8Len)

/-- Segments that are not empty, each beginning where the one in front ends. -/
def Tiles (start : Nat) : List Segment → Nat → Prop
  | [], stop => start = stop
  | segment :: rest, stop =>
      segment.span.start = start ∧ start < segment.span.stop ∧ Tiles segment.span.stop rest stop

structure Faithful (document : Document) (text : String) : Prop where
  source : document.source = text
  tiles : Tiles 0 document.segments text.utf8ByteSize
  reconstruct : document.reconstruct = text
  textInFront : ∀ content span, .text content span ∉ document.segments.tail
  texts : ∀ content span, .text content span ∈ document.segments →
    content = document.textAt span ∧ Unopened content.toList
  directives : ∀ directive, .directive directive ∈ document.segments →
    ∃ rest, document.textAt directive.span = marker ++ directive.visibility.signs ++ rest ∧
      directive.body.toList <:+ rest.toList ∧ Unopened directive.body.toList

inductive Covers : Cursor → List Segment → Cursor → Prop
  | nil {stop} : Covers stop [] stop
  | cons {start middle stop : Cursor} {directive : Directive} {head body : List Char}
      {segments : List Segment} :
      start.Passes (opening directive.visibility ++ (head ++ body)) middle → Unopened body →
      directive.body = .ofList body → directive.span = ⟨start.offset, middle.offset⟩ →
      Covers middle segments stop → Covers start (.directive directive :: segments) stop

theorem covers_of_tile {setting : Ruleset.Setting Part} {start stop : Cursor}
    {captures : List Capture} {trees : List (Tree Part)} {segments : List Segment}
    (blocks : Blocks start captures stop)
    (reduced : Part.ruleset.reduceItems setting 1 (Tree.ofItems captures) = .ok trees)
    (tiled : tile start.offset trees = .ok segments) : Covers start segments stop := by
  induction blocks generalizing trees segments with
  | nil =>
      cases reduced
      cases tiled
      exact .nil
  | cons isBlock _ ih =>
      obtain ⟨tree, rest, treeReduced, restReduced, rfl⟩ := Ruleset.reduceItems_cons reduced
      rw [tile] at tiled
      split at tiled
      · cases tiled
      next segment isSegment =>
        obtain ⟨directive, head, body, rfl, passes, unopened, sameBody, sameStop⟩ :=
          Part.reduce_block isBlock treeReduced isSegment
        simp only [Segment.startingAt, Segment.span, sameStop] at tiled
        split at tiled
        · cases tiled
        next later restTiled =>
          cases tiled
          exact .cons passes unopened sameBody rfl (ih restReduced restTiled)

theorem Covers.tiles {start stop : Cursor} {segments : List Segment}
    (covers : Covers start segments stop) : Tiles start.offset segments stop.offset := by
  induction covers with
  | nil => rfl
  | @cons start middle stop directive head body segments passes _ _ sameSpan _ ih =>
      have further : start.offset < middle.offset := by
        have offset := passes.offset
        have some := Language.Directive.utf8Len_opening_pos directive.visibility
        rw [String.utf8Len_append] at offset
        omega
      rw [Tiles, Segment.span, sameSpan]
      exact ⟨rfl, further, ih⟩

theorem textAt_eq {document : Document} {start next : Cursor} {before passed : List Char}
    (reached : (Cursor.start document.source).Passes before start)
    (passes : start.Passes passed next) :
    document.textAt ⟨start.offset, next.offset⟩ = .ofList passed := by
  have offset : start.offset = utf8Len before := by
    rw [reached.offset]
    exact Nat.zero_add _
  have width : next.offset - start.offset = utf8Len passed := by
    have further := passes.offset
    omega
  simp only [textAt, width]
  rw [offset, reached.advance, passes.advance, passes.sliceTo]

theorem Covers.passes (document : Document) {start stop : Cursor} {segments : List Segment}
    {before : List Char} (covers : Covers start segments stop)
    (reached : (Cursor.start document.source).Passes before start) :
    start.Passes (String.join (segments.map document.textOf)).toList stop := by
  induction covers generalizing before with
  | nil => exact .refl _
  | @cons start middle stop directive head body segments passes _ _ sameSpan _ ih =>
      rw [List.map_cons, String.join_cons, String.toList_append, textOf, Segment.span, sameSpan,
        textAt_eq reached passes, String.toList_ofList]
      exact passes.trans (ih (reached.trans passes))

theorem Covers.not_text {start stop : Cursor} {segments : List Segment}
    (covers : Covers start segments stop) (content : String) (span : Span) :
    .text content span ∉ segments := by
  induction covers with
  | nil => exact List.not_mem_nil
  | cons _ _ _ _ _ ih =>
      intro member
      rcases List.mem_cons.mp member with same | later
      · cases same
      · exact ih later

theorem Covers.directives (document : Document) {start stop : Cursor} {segments : List Segment}
    {before : List Char} (covers : Covers start segments stop)
    (reached : (Cursor.start document.source).Passes before start) {directive : Directive}
    (member : .directive directive ∈ segments) :
    ∃ rest, document.textAt directive.span = marker ++ directive.visibility.signs ++ rest ∧
      directive.body.toList <:+ rest.toList ∧ Unopened directive.body.toList := by
  induction covers generalizing before with
  | nil => cases member
  | @cons start middle stop block head body segments passes unopened sameBody sameSpan _ ih =>
      rcases List.mem_cons.mp member with same | later
      · cases same
        refine ⟨.ofList (head ++ body), ?_, ?_, ?_⟩
        · rw [sameSpan, textAt_eq reached passes, opening, String.ofList_append,
            String.ofList_toList]
        · rw [sameBody, String.toList_ofList, String.toList_ofList]
          exact List.suffix_append head body
        · rw [sameBody, String.toList_ofList]
          exact unopened
      · exact ih (reached.trans passes) later

theorem Covers.faithful {text : String} {segments : List Segment} {stop : Cursor}
    (covers : Covers (.start text) segments stop) (ended : stop.rest = []) :
    Faithful ⟨text, segments⟩ text := by
  have here : (Cursor.start text).Passes [] (.start text) := .refl _
  obtain ⟨joined, whole⟩ := (covers.passes ⟨text, segments⟩ here).of_ended ended
  constructor
  case source => rfl
  case tiles =>
    rw [← whole]
    exact covers.tiles
  case reconstruct => exact String.toList_injective joined
  case textInFront =>
    intro content span member
    exact covers.not_text content span (List.mem_of_mem_tail member)
  case texts =>
    intro content span member
    exact absurd member (covers.not_text content span)
  case directives =>
    intro directive member
    exact covers.directives ⟨text, segments⟩ here member

theorem Covers.faithful_behind {text : String} {front : List Char} {segments : List Segment}
    {middle stop : Cursor} (covers : Covers middle segments stop) (ended : stop.rest = [])
    (passes : (Cursor.start text).Passes front middle) (filled : front ≠ [])
    (unopened : Unopened front) :
    Faithful ⟨text, .text (.ofList front) ⟨0, middle.offset⟩ :: segments⟩ text := by
  let document : Document := ⟨text, .text (.ofList front) ⟨0, middle.offset⟩ :: segments⟩
  have inFront : document.textAt ⟨0, middle.offset⟩ = .ofList front :=
    @textAt_eq document (.start text) middle [] front (.refl _) passes
  obtain ⟨joined, whole⟩ := (passes.trans (covers.passes document passes)).of_ended ended
  constructor
  case source => rfl
  case tiles =>
    have further : 0 < middle.offset := by
      have some := String.utf8Len_eq_zero.not.mpr filled
      have offset := passes.offset
      omega
    rw [← whole]
    exact ⟨rfl, further, covers.tiles⟩
  case reconstruct =>
    apply String.toList_injective
    rw [Document.reconstruct, List.map_cons, String.join_cons, String.toList_append]
    change (document.textAt ⟨0, middle.offset⟩).toList ++ _ = _
    rw [inFront, String.toList_ofList]
    exact joined
  case textInFront => exact covers.not_text
  case texts =>
    intro content span member
    rcases List.mem_cons.mp member with same | later
    · cases same
      rw [String.toList_ofList]
      exact ⟨inFront.symm, unopened⟩
    · exact absurd later (covers.not_text content span)
  case directives =>
    intro directive member
    rcases List.mem_cons.mp member with same | later
    · cases same
    · exact covers.directives document passes later

theorem parseSource_eq_ok {source : Source} {document : Document}
    (read : parseSource source = .ok document) :
    ∃ capture tree segments, Language.Directive.grammar.parseSource none source = .ok capture ∧
      Part.ruleset.applyCapture ⟨some source, Part.display⟩ capture = .ok tree ∧
        tile 0 (partsOf tree) = .ok segments ∧ document = ⟨source.text, segments⟩ := by
  rw [parseSource] at read
  rcases parsed : Language.Directive.grammar.parseSource none source with _ | capture
  · rw [parsed] at read
    cases read
  rw [parsed] at read
  rcases reduced : Part.ruleset.applyCapture ⟨some source, Part.display⟩ capture with _ | tree
  · simp only [bind, Except.bind, reduced] at read
    cases read
  rcases tiled : tile 0 (partsOf tree) with _ | segments
  · simp only [bind, Except.bind, reduced, tiled] at read
    cases read
  simp only [bind, Except.bind, reduced, tiled] at read
  cases read
  exact ⟨capture, tree, segments, rfl, reduced, tiled, rfl⟩

/-- A document is read as the text in front, unless that is empty, and directives up to the end of
the source. -/
theorem covers_of_parseSource {source : Source} {document : Document}
    (read : parseSource source = .ok document) :
    ∃ (front : List Char) (middle stop : Cursor) (segments : List Segment),
      (Cursor.start source.text).Passes front middle ∧ Unopened front ∧
        Covers middle segments stop ∧ stop.rest = [] ∧
        document = ⟨source.text,
          if front = [] then segments
          else .text (.ofList front) ⟨0, middle.offset⟩ :: segments⟩ := by
  obtain ⟨capture, tree, segments, parsed, reduced, tiled, rfl⟩ := parseSource_eq_ok read
  rw [Language.Directive.grammar_eq] at parsed
  obtain ⟨output, stop, found, ended, rfl⟩ :=
    Grammar.matches_of_parseWith Language.Directive.accepted parsed
  obtain ⟨front, middle, blocks, passes, unopened, isBlocks, captured⟩ :=
    Language.Directive.document_matches found
  rw [captured, Ruleset.applyCapture, Ruleset.apply, Tree.ofCapture, Tree.ofItems] at reduced
  obtain ⟨_, itemsReduced, sameTree⟩ := Ruleset.reduce_list reduced
  obtain ⟨text, trees, textReduced, blocksReduced, rfl⟩ := Ruleset.reduceItems_cons itemsReduced
  cases (Part.reduce_text _).symm.trans textReduced
  cases (Part.reduceNode_list _).symm.trans sameTree
  simp only [partsOf, tile, segmentOf, Tree.value?, Segment.startingAt, Segment.span] at tiled
  split at tiled
  · cases tiled
  next later blocksTiled =>
    cases tiled
    have covers := covers_of_tile isBlocks blocksReduced blocksTiled
    refine ⟨front, middle, stop, later, passes, unopened, covers, ended, ?_⟩
    cases front with
    | nil => rfl
    | cons c front =>
        have filled : ¬(String.ofList (c :: front)).isEmpty := by
          rw [String.isEmpty_iff, ← String.toList_eq_nil_iff, String.toList_ofList]
          exact List.cons_ne_nil c front
        rw [if_neg (List.cons_ne_nil c front)]
        exact congrArg _ (if_neg filled)

theorem faithful_of_parse {text : String} {document : Document}
    (read : parse text = .ok document) : document.Faithful text := by
  obtain ⟨front, middle, stop, segments, passes, unopened, covers, ended, rfl⟩ :=
    covers_of_parseSource read
  by_cases empty : front = []
  · subst empty
    obtain ⟨-, rfl⟩ := passes.eq_of_offset passes.offset
    rw [if_pos rfl]
    exact covers.faithful ended
  · rw [if_neg empty]
    exact covers.faithful_behind ended passes empty unopened

def straddling : Document where
  source := "é::::>-f\nb::>>"
  segments :=
    [.text "é:" ⟨0, 3⟩,
     .directive
      { name := "f"
        arguments := []
        visibility := ⟨.visible, .hidden⟩
        body := "b::>>"
        span := ⟨3, 15⟩ }]

theorem faithful_of_parse_straddling :
    parse "é::::>-f\nb::>>" = .ok straddling ∧ straddling.Faithful "é::::>-f\nb::>>" := by
  have evaluated : (parse "é::::>-f\nb::>>").toOption = some straddling := by
    rw [parse, parseSource, Language.Directive.grammar_eq]
    decide +kernel
  have read : parse "é::::>-f\nb::>>" = .ok straddling := by
    cases result : parse "é::::>-f\nb::>>" with
    | error diagnostic =>
        rw [result] at evaluated
        cases evaluated
    | ok document =>
        rw [result] at evaluated
        exact congrArg _ (Option.some.inj evaluated)
  exact ⟨read, faithful_of_parse read⟩

end PegText.Document
