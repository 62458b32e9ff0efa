import PegText.Proofs.Document.Tiling
import PegText.Proofs.Language.Scanning

/-!
Reading a document from a text that is laid out as text and blocks: it has a segment for the text
in front and a directive for each block. Such a text is refused for a number out of range at most,
and any other text because it is no document.
-/

namespace PegText

open String (utf8Len)

namespace Language.Directive

def Written.directive? (block : Written) (span : Span) : Option PegText.Directive :=
  (arguments? block.arguments).map fun arguments =>
    { name := .ofList block.name
      arguments := arguments
      visibility := block.visibility
      body := .ofList block.body
      span := span }

def segments? : Nat → List Written → Option (List Segment)
  | _, [] => some []
  | start, block :: blocks =>
      let stop := start + utf8Len block.text
      (block.directive? ⟨start, stop⟩).bind fun directive =>
        (segments? stop blocks).map (.directive directive :: ·)

def directiveTree (directive : PegText.Directive) : Tree Part :=
  .value (.segment (.directive directive))

section

variable {setting : Ruleset.Setting Part} {depth : Nat}

theorem valuesOf_arguments (name : String) (arguments : List Argument) :
    Builder.valuesOf name (arguments.map argumentTree) = pure (arguments.map .argument) := by
  induction arguments with
  | nil => rfl
  | cons argument rest ih =>
      rw [List.map_cons, argumentTree, Builder.valuesOf, ih, pure_bind]
      rfl

theorem asArguments_map (arguments : List Argument) :
    Part.asArguments (arguments.map .argument) = pure arguments := by
  induction arguments with
  | nil => rfl
  | cons argument rest ih =>
      rw [List.map_cons, Part.asArguments, ih]
      rfl

theorem node_code (arguments : List Argument) (name body : Slice) (visibility : Visibility) :
    Ruleset.reduceNode setting Part.ruleset.rules
        (.record
          [("code",
            .record
              [("arglist", .list (arguments.map argumentTree)), ("funcall", .atom name),
                ("stdin", .atom body), ("visibility", .value (.visibility visibility))])]) =
      .ok (directiveTree
        ⟨name.text, arguments, visibility, body.text, ⟨name.span.start, body.span.stop⟩⟩) := by
  have simple : (arguments.map argumentTree).all Tree.isSimple = true := by
    simp [argumentTree, Tree.isSimple]
  have matched : Part.codeRule.shape.match?
      (.record
        [("code",
          .record
            [("arglist", .list (arguments.map argumentTree)), ("funcall", .atom name),
              ("stdin", .atom body), ("visibility", .value (.visibility visibility))])]) =
        some
          [("args", .list (arguments.map argumentTree)), ("body", .atom body),
            ("name", .atom name), ("visibility", .value (.visibility visibility))] := by
    simp (disch := decide) [Part.codeRule, Part.ruleset, Ruleset.ofRules, Shape.match?, Shape.bind?,
      Shape.bindFields?, Entries.lookup, List.lookup_cons, Tree.isSimple, Bindings.bind?,
      Entries.insert_nil, Entries.insert_of_lt, Entries.insert_of_gt, simple]
  have built : Part.codeRule.build.run
      [("args", .list (arguments.map argumentTree)), ("body", .atom body),
        ("name", .atom name), ("visibility", .value (.visibility visibility))] =
      ExceptT.run
        (Builder.valuesOf "args" (arguments.map argumentTree) >>= fun values =>
          Part.asArguments values >>= fun arguments =>
            pure (directiveTree
              ⟨name.text, arguments, visibility, body.text, ⟨name.span.start, body.span.stop⟩⟩))
        [("body", .atom body), ("name", .atom name)] := rfl
  rw [Part.reduceNode_code, Ruleset.reduceNode, matched]
  simp only [built, valuesOf_arguments, pure_bind, asArguments_map]
  rfl

end

theorem Shows.reduces {block : Written} {stop : Nat} {capture : Capture}
    (shows : Shows block stop capture) (setting : Ruleset.Setting Part) :
    ∃ start, Reduces (Part.ruleset.reduce setting 1 (.ofCapture capture))
      ((block.directive? ⟨start, stop⟩).map directiveTree) := by
  obtain @⟨name, captures, start, command, result, sameName, pictures⟩ := shows
  have argumentsReduce : Reduces
      (Part.ruleset.reduceItems setting 4 (Tree.ofItems captures)) _ :=
    reduces_arguments pictures setting (by decide)
  have nameReduces : Reduces (Part.ruleset.reduce setting 3 (.atom name)) (some (.atom name)) :=
    reduces_atom (by decide)
  let body : Slice := ⟨.ofList block.body, start, stop⟩
  have bodyReduces : Reduces (Part.ruleset.reduce setting 3 (.atom body)) (some (.atom body)) :=
    reduces_atom (by decide)
  have visibilityReduces : Reduces
      (Part.ruleset.reduce setting 3 (.ofCapture (block.visibility.capture command result)))
      (some (.value (.visibility block.visibility))) := by
    rw [Part.reduce_visibility]
    exact .done
  have listReduces := argumentsReduce.list_map maxDepth_eq (by decide) fun _ => Part.reduceNode_list _
  have fieldsReduce : Reduces
      (Part.ruleset.reduceEntries setting 3
        [("arglist", .list (Tree.ofItems captures)), ("funcall", .atom name),
          ("stdin", .atom body), ("visibility", .ofCapture (block.visibility.capture command result))])
      ((arguments? block.arguments).map fun arguments =>
        [("arglist", .list (arguments.map argumentTree)), ("funcall", .atom name),
          ("stdin", .atom body), ("visibility", .value (.visibility block.visibility))]) := by
    have fields := listReduces.entries_cons "arglist"
      (nameReduces.entries_cons "funcall"
        (bodyReduces.entries_cons "stdin" (visibilityReduces.entries_cons "visibility" .entries_nil)))
    cases known : arguments? block.arguments <;> simpa [known] using fields
  have blockReduces := fieldsReduce.record_map maxDepth_eq (by decide) fun _ =>
    Part.reduceNode_block _ _ _ _
  have reduces := (blockReduces.entry_map "code").record_map maxDepth_eq (by decide)
    fun arguments => node_code arguments name body block.visibility
  refine ⟨name.span.start, ?_⟩
  rw [Written.directive?, Option.map_map, ← sameName]
  exact reduces

theorem tile_directive (start : Nat) (directive : PegText.Directive) (trees : List (Tree Part)) :
    Document.tile start (directiveTree directive :: trees) =
      (Document.tile directive.span.stop trees).map
        (.directive { directive with span := ⟨start, directive.span.stop⟩ } :: ·) := by
  simp only [directiveTree, Document.tile, Document.segmentOf, Tree.value?, Segment.startingAt,
    Segment.span, Segment.isEmptyText, Bool.false_eq_true, if_false]
  cases Document.tile directive.span.stop trees <;> rfl

theorem ShowsAll.reduces {start : Nat} {blocks : List Written} {captures : List Capture}
    (shows : ShowsAll start blocks captures) (setting : Ruleset.Setting Part) :
    Reduces
      ((Part.ruleset.reduceItems setting 1 (Tree.ofItems captures)).bind (Document.tile start))
      (segments? start blocks) := by
  induction shows with
  | nil => exact .done
  | @cons start block blocks capture captures first _ ih =>
      obtain ⟨nameStart, here⟩ := first.reduces setting
      simp only [Tree.ofItems, Ruleset.reduceItems, segments?, Written.directive?] at here ⊢
      cases known : arguments? block.arguments with
      | none =>
          rw [known] at here
          obtain ⟨diagnostic, _, _, failed, cause⟩ := reduces_none.mp here
          rw [failed]
          exact .malformed cause
      | some arguments =>
          rw [known] at here
          rw [reduces_some.mp here]
          -- the trees behind are tiled from where this block stops
          have behind := ih.map fun segments =>
            Segment.directive ⟨.ofList block.name, arguments, block.visibility,
              .ofList block.body, start, start + utf8Len block.text⟩ :: segments
          cases reduced : Part.ruleset.reduceItems setting 1 (Tree.ofItems captures) with
          | error diagnostic =>
              rw [reduced] at behind
              exact behind
          | ok trees =>
              rw [reduced] at behind
              simp only [Except.map, Except.bind, tile_directive]
              exact behind

end Language.Directive

namespace Document

open Language.Directive

def inFront (front : List Char) : List Segment :=
  if front = [] then [] else [.text (.ofList front) ⟨0, utf8Len front⟩]

def segmentsOf? (front : List Char) (blocks : List Written) : Option (List Segment) :=
  (segments? (utf8Len front) blocks).map (inFront front ++ ·)

theorem tile_front (front : List Char) (trees : List (Tree Part)) :
    tile 0 (.value (.segment (.text (.ofList front) ⟨0, utf8Len front⟩)) :: trees) =
      (tile (utf8Len front) trees).map (inFront front ++ ·) := by
  have isEmpty : (String.ofList front).isEmpty = decide (front = []) := by
    rw [Bool.eq_iff_iff, decide_eq_true_iff, String.isEmpty_iff, ← String.toList_eq_nil_iff,
      String.toList_ofList]
  simp only [tile, segmentOf, Tree.value?, Segment.startingAt, Segment.span, Segment.isEmptyText,
    isEmpty, decide_eq_true_iff, inFront]
  cases tile (utf8Len front) trees with
  | error => rfl
  | ok segments =>
      by_cases empty : front = []
      · simp [empty, Except.map]
      · simp [empty, Except.map]

theorem reduces_document {front : List Char} {blocks : List Written} {captures : List Capture}
    (shows : ShowsAll (utf8Len front) blocks captures) (setting : Ruleset.Setting Part) :
    Reduces
      ((Part.ruleset.applyCapture setting (documentCapture 0 front captures)).bind fun tree =>
        tile 0 (partsOf tree))
      (segmentsOf? front blocks) := by
  have behind := (shows.reduces setting).map (inFront front ++ ·)
  have reduced : Part.ruleset.applyCapture setting (documentCapture 0 front captures) =
      (Part.ruleset.reduceItems setting 1 (Tree.ofItems captures)).map fun trees =>
        .list (.value (.segment (.text (.ofList front) ⟨0, utf8Len front⟩)) :: trees) := by
    have low : ¬Part.ruleset.maxDepth ≤ 0 := by decide
    rw [documentCapture, Ruleset.applyCapture, Ruleset.apply, Tree.ofCapture, Tree.ofItems,
      Ruleset.reduce, if_neg low, Ruleset.reduceItems, Part.reduce_text, Nat.zero_add]
    cases Part.ruleset.reduceItems setting 1 (Tree.ofItems captures) <;> rfl
  rw [reduced]
  cases items : Part.ruleset.reduceItems setting 1 (Tree.ofItems captures) with
  | error diagnostic =>
      rw [items] at behind
      exact behind
  | ok trees =>
      rw [items] at behind
      simp only [Except.map, Except.bind, partsOf, tile_front]
      exact behind

variable {source : Source} {front : List Char} {blocks : List Written}

theorem parseSource_eq (source : Source) :
    parseSource source =
      (Language.Directive.grammar.parseSource none source).bind fun capture =>
        ((Part.ruleset.applyCapture ⟨some source, Part.display⟩ capture).bind fun tree =>
          tile 0 (partsOf tree)).map fun segments => ⟨source.text, segments⟩ := by
  rw [parseSource]
  cases Language.Directive.grammar.parseSource none source with
  | error => rfl
  | ok capture =>
      simp only [bind, Except.bind]
      cases Part.ruleset.applyCapture ⟨some source, Part.display⟩ capture with
      | error => rfl
      | ok tree =>
          simp only
          cases tile 0 (partsOf tree) <;> rfl

theorem reduces_of_laidOut (laidOut : LaidOut source.text.toList front blocks) :
    Reduces (parseSource source)
      ((segmentsOf? front blocks).map fun segments => ⟨source.text, segments⟩) := by
  obtain ⟨captures, shows, parsed⟩ := parseSource_of_laidOut laidOut
  rw [parseSource_eq, parsed]
  exact (reduces_document shows _).map _

theorem refused_of_not_laidOut
    (unreadable : ∀ front blocks, ¬LaidOut source.text.toList front blocks) :
    ∃ diagnostic expected found, parseSource source = .error diagnostic ∧
      diagnostic.cause = .unexpectedInput expected found := by
  obtain ⟨diagnostic, expected, found, parsed, cause⟩ := parseSource_refused unreadable
  rw [parseSource_eq, parsed]
  exact ⟨diagnostic, expected, found, rfl, cause⟩

/-- What documents are read from. -/
theorem parseSource_eq_ok_iff {document : Document} :
    parseSource source = .ok document ↔
      ∃ front blocks segments, LaidOut source.text.toList front blocks ∧
        segmentsOf? front blocks = some segments ∧ document = ⟨source.text, segments⟩ := by
  constructor
  · intro read
    by_cases readable : ∃ front blocks, LaidOut source.text.toList front blocks
    · obtain ⟨front, blocks, laidOut⟩ := readable
      have reduces := reduces_of_laidOut laidOut
      cases known : segmentsOf? front blocks with
      | none =>
          rw [known] at reduces
          obtain ⟨_, _, _, failed, -⟩ := reduces_none.mp reduces
          rw [read] at failed
          cases failed
      | some segments =>
          rw [known] at reduces
          have same := reduces_some.mp reduces
          rw [read] at same
          cases same
          exact ⟨front, blocks, segments, laidOut, known, rfl⟩
    · have unreadable : ∀ front blocks, ¬LaidOut source.text.toList front blocks :=
        fun front blocks laidOut => readable ⟨front, blocks, laidOut⟩
      obtain ⟨_, _, _, failed, -⟩ := refused_of_not_laidOut unreadable
      rw [read] at failed
      cases failed
  · rintro ⟨front, blocks, segments, laidOut, known, rfl⟩
    have reduces := reduces_of_laidOut laidOut
    rw [known] at reduces
    exact reduces_some.mp reduces

theorem parse_eq_ok_iff {text : String} {document : Document} :
    parse text = .ok document ↔
      ∃ front blocks segments, LaidOut text.toList front blocks ∧
        segmentsOf? front blocks = some segments ∧ document = ⟨text, segments⟩ :=
  @parseSource_eq_ok_iff (.ofInput text) document

end Document

end PegText
