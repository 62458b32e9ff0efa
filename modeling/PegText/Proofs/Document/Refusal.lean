import PegText.Proofs.Document.Reading

/-!
When a text is refused. A scan goes from one start of a directive to the next. It comes to a start
behind which no directive can be read exactly if the text is no document; a document is malformed
exactly if a number that the scan has passed is out of range. What opens a list is what the rule
`paren_args` matches (`paren_args_spelled`, `matches_paren_args`).
-/

namespace PegText

namespace Language.Directive

open CharClass (isInline isNameChar)
open Node RuleTable

/-- What stands behind the leftmost start of a directive in a text. -/
inductive Starts : List Char → List Char → Prop
  | here {visibility behind} : Starts (opening visibility ++ behind) behind
  | later {c text behind} : (∀ visibility, ¬opening visibility <+: c :: text) →
      Starts text behind → Starts (c :: text) behind

/-- What is read behind a start: blanks, the name, its arguments, blanks and at most one newline,
each of them as far as it goes. -/
inductive Reads : List Char → List Phrase → List Char → Prop
  | mk {blanks name list gap newline phrases rest} : Inline blanks → name ≠ [] →
      (∀ c ∈ name, isNameChar c = true) → Clear isNameChar (list ++ (gap ++ (newline ++ rest))) →
      Argued phrases list (gap ++ (newline ++ rest)) → Inline gap →
      Clear isInline (newline ++ rest) → NewLine newline rest →
      Reads (blanks ++ (name ++ (list ++ (gap ++ (newline ++ rest))))) phrases rest

/-- What no directive can be read from: there is no name, or a parenthesis right behind the name
does not open a list. -/
inductive Broken : List Char → Prop
  | nameless {blanks rest} : Inline blanks → Clear isInline rest → Clear isNameChar rest →
      Broken (blanks ++ rest)
  | unlisted {blanks name rest} : Inline blanks → name ≠ [] → (∀ c ∈ name, isNameChar c = true) →
      rest.head? = some '(' → (∀ phrases list, SpellsList phrases list → ¬list <+: rest) →
      Broken (blanks ++ (name ++ rest))

/-- A scan from one place to another, with the arguments of the directives that it has passed. -/
inductive Scans : List Char → List (List Phrase) → List Char → Prop
  | nil {text} : Scans text [] text
  | cons {text behind phrases rest lists stop} : Starts text behind → Reads behind phrases rest →
      Scans rest lists stop → Scans text (phrases :: lists) stop

def Stuck (text : List Char) : Prop :=
  ∃ lists rest behind, Scans text lists rest ∧ Starts rest behind ∧ Broken behind

def Literal.TooLarge : Literal → Prop
  | str _ => False
  | int digits => Int64.maxValue.toInt < Integer.decimal digits

def Phrase.TooLarge : Phrase → Prop
  | plain value | keyed _ value => value.TooLarge
  | bare _ => False

def Overflows (text : List Char) : Prop :=
  ∃ lists rest, Scans text lists rest ∧ ∃ phrases ∈ lists, ∃ phrase ∈ phrases, phrase.TooLarge

variable {text behind rest front : List Char} {phrases : List Phrase}
  {lists : List (List Phrase)} {blocks : List Written}

theorem unopened_nil : Unopened [] := by
  intro visibility inside
  have none := List.infix_nil.mp inside
  rw [opening_cons] at none
  cases none

theorem unopened_cons {c : Char} :
    Unopened (c :: text) ↔ (∀ visibility, ¬opening visibility <+: c :: text) ∧ Unopened text := by
  simp only [Unopened, List.infix_cons_iff, not_or, forall_and]

theorem starts_iff :
    Starts text behind ↔
      ∃ front visibility, Unopened front ∧ text = front ++ (opening visibility ++ behind) := by
  constructor
  · intro starts
    induction starts with
    | @here visibility behind => exact ⟨[], visibility, unopened_nil, rfl⟩
    | @later c text behind notHere _ ih =>
        obtain ⟨front, visibility, unopened, rfl⟩ := ih
        refine ⟨c :: front, visibility, unopened_cons.mpr ⟨?_, unopened⟩, rfl⟩
        intro other begins
        exact notHere other (begins.trans (List.prefix_append (c :: front) _))
  · rintro ⟨front, visibility, unopened, rfl⟩
    have opens : Opens (opening visibility ++ behind) :=
      .inr ⟨visibility, List.prefix_append _ _⟩
    induction front with
    | nil => exact .here
    | cons c front ih =>
        refine .later ?_ (ih (unopened_cons.mp unopened).2)
        exact unopened.append_opening opens (List.cons_ne_nil c front)

theorem Starts.unique {other : List Char} (one : Starts text behind) (two : Starts text other) :
    behind = other := by
  induction one with
  | @here visibility behind =>
      generalize same : opening visibility ++ behind = whole at two
      cases two with
      | @here visibility' _ =>
          rw [opening_cons, opening_cons] at same
          exact (List.append_inj same rfl).2
      | later notHere => exact (notHere visibility ⟨behind, same⟩).elim
  | @later c text behind notHere _ ih =>
      generalize same : c :: text = whole at two
      cases two with
      | @here visibility other => exact (notHere visibility ⟨other, same.symm⟩).elim
      | later _ starts =>
          cases same
          exact ih starts

theorem unopened_or_starts (text : List Char) : Unopened text ∨ ∃ behind, Starts text behind := by
  induction text with
  | nil => exact .inl unopened_nil
  | cons c text ih =>
      by_cases here : ∃ visibility, opening visibility <+: c :: text
      · obtain ⟨visibility, behind, same⟩ := here
        exact .inr ⟨behind, same ▸ .here⟩
      have notHere : ∀ visibility, ¬opening visibility <+: c :: text := not_exists.mp here
      rcases ih with unopened | ⟨behind, starts⟩
      · exact .inl (unopened_cons.mpr ⟨notHere, unopened⟩)
      · exact .inr ⟨behind, .later notHere starts⟩

theorem Unopened.not_starts (unopened : Unopened text) : ¬Starts text behind := by
  intro starts
  obtain ⟨front, visibility, -, rfl⟩ := starts_iff.mp starts
  exact unopened visibility ⟨front, behind, List.append_assoc _ _ _⟩

theorem Starts.length_lt (starts : Starts text behind) : behind.length < text.length := by
  obtain ⟨front, visibility, -, rfl⟩ := starts_iff.mp starts
  rw [opening_cons]
  simp only [List.length_append, List.length_cons]
  omega

/-! Behind a start there is one directive that can be read, or the scan is broken there. -/

theorem Argued.unique {phrases' : List Phrase} {list list' rest' : List Char}
    (one : Argued phrases list rest) (two : Argued phrases' list' rest')
    (same : list ++ rest = list' ++ rest') : phrases = phrases' ∧ rest = rest' := by
  let cursor : Cursor := ⟨0, list ++ rest⟩
  obtain ⟨next, passes, rfl⟩ := Cursor.exists_passes (show cursor.rest = list ++ rest from rfl)
  obtain ⟨next', passes', rfl⟩ := Cursor.exists_passes (show cursor.rest = list' ++ rest' from same)
  obtain ⟨captures, found, pictures⟩ := matches_args one passes
  obtain ⟨captures', found', pictures'⟩ := matches_args two passes'
  obtain ⟨sameOutput, rfl⟩ := found.unique found'
  cases sameOutput
  exact ⟨phrases_unique pictures pictures', rfl⟩

theorem NewLine.unique {newline newline' rest' : List Char} (one : NewLine newline rest)
    (two : NewLine newline' rest') (same : newline ++ rest = newline' ++ rest') : rest = rest' := by
  cases one with
  | windows =>
      cases two with
      | windows => simpa using same
      | unix => simp at same
      | none noWindows => exact (noWindows ⟨rest, same⟩).elim
  | unix =>
      cases two with
      | windows => simp at same
      | unix => simpa using same
      | none _ noUnix => exact (noUnix ⟨rest, same⟩).elim
  | none noWindows noUnix =>
      cases two with
      | windows => exact (noWindows ⟨rest', same.symm⟩).elim
      | unix => exact (noUnix ⟨rest', same.symm⟩).elim
      | none => exact same

theorem clear_inline_of_name {name : List Char} (filled : name ≠ [])
    (all : ∀ c ∈ name, isNameChar c = true) : Clear isInline (name ++ rest) :=
  Word.clear ⟨filled, fun c member => CharClass.isWordChar_of_isNameChar (all c member)⟩

theorem Reads.unique {phrases' : List Phrase} {rest' : List Char} (one : Reads behind phrases rest)
    (two : Reads behind phrases' rest') : phrases = phrases' ∧ rest = rest' := by
  obtain @⟨_, _, _, _, _, _, _, blanks, filled, name, nameEnds, argued, gap, gapEnds, newline⟩ :=
    one
  generalize same : (_ ++ (_ ++ _) : List Char) = whole at two
  obtain ⟨blanks', filled', name', nameEnds', argued', gap', gapEnds', newline'⟩ := two
  obtain ⟨-, sameName⟩ := run_unique blanks (clear_inline_of_name filled name) blanks'
    (clear_inline_of_name filled' name') same
  obtain ⟨-, sameArguments⟩ := run_unique name nameEnds name' nameEnds' sameName
  obtain ⟨samePhrases, sameGap⟩ := argued.unique argued' sameArguments
  obtain ⟨-, sameNewline⟩ := run_unique gap gapEnds gap' gapEnds' sameGap
  exact ⟨samePhrases, newline.unique newline' sameNewline⟩

theorem clear_name_of_paren (paren : rest.head? = some '(') : Clear isNameChar rest := by
  intro c first
  rw [paren] at first
  cases first
  decide

theorem Argued.list_of_paren {list : List Char} (argued : Argued phrases list rest)
    (paren : (list ++ rest).head? = some '(') : SpellsList phrases list := by
  cases argued with
  | list spells => exact spells
  | @line blanks line _ filled inline =>
      cases blanks with
      | nil => exact (filled rfl).elim
      | cons c blanks =>
          cases paren
          exact absurd (inline '(' List.mem_cons_self) (by decide)
  | none other => exact (other paren).elim

theorem Reads.not_broken (reads : Reads behind phrases rest) : ¬Broken behind := by
  intro broken
  obtain ⟨blanks, filled, name, nameEnds, argued, -, -, -⟩ := reads
  generalize same : (_ ++ (_ ++ _) : List Char) = whole at broken
  cases broken with
  | nameless blanks' clear clearName =>
      obtain ⟨-, rfl⟩ := run_unique blanks (clear_inline_of_name filled name) blanks' clear same
      exact not_clear_run filled name clearName
  | unlisted blanks' filled' name' paren unlisted =>
      obtain ⟨-, sameName⟩ := run_unique blanks (clear_inline_of_name filled name) blanks'
        (clear_inline_of_name filled' name') same
      obtain ⟨-, rfl⟩ := run_unique name nameEnds name' (clear_name_of_paren paren) sameName
      exact unlisted _ _ (argued.list_of_paren paren) (List.prefix_append _ _)

theorem exists_run (accepts : Char → Bool) (text : List Char) :
    ∃ run rest, text = run ++ rest ∧ (∀ c ∈ run, accepts c = true) ∧ Clear accepts rest := by
  obtain ⟨run, next, taken⟩ := Cursor.exists_takes accepts ⟨0, text⟩
  exact ⟨run, next.rest, taken.passes.rest, taken.all, taken.ended⟩

theorem exists_newline (text : List Char) :
    ∃ newline rest, text = newline ++ rest ∧ NewLine newline rest := by
  by_cases windows : ['\r', '\n'] <+: text
  · obtain ⟨rest, rfl⟩ := windows
    exact ⟨_, rest, rfl, .windows⟩
  by_cases unix : ['\n'] <+: text
  · obtain ⟨rest, rfl⟩ := unix
    exact ⟨_, rest, rfl, .unix⟩
  · exact ⟨[], text, rfl, .none windows unix⟩

theorem paren_of_fails_args {cursor : Cursor} (failed : rules.Fails (.rule (named "args")) cursor) :
    cursor.rest.head? = some '(' := by
  rw [fails_rule, body_args, fails_choice] at failed
  have opened : rules.Fails openNode cursor :=
    failed openNode (List.mem_cons_of_mem _ List.mem_cons_self)
  rw [openNode, fails_sequence_cons, fails_absent] at opened
  rcases opened with ⟨_, _, paren⟩ | ⟨_, middle, _, line⟩
  · rw [(matches_literal.mp paren).1.rest]
    rfl
  rw [fails_sequence_cons] at line
  rcases line with noLine | ⟨_, _, _, none⟩
  · exact noLine.of_repetition.elim
  · exact (fails_sequence_nil none).elim

/-- Behind a name there are arguments, unless a parenthesis there does not open a list. -/
theorem argued_or_unlisted (text : List Char) :
    (∃ phrases list rest, text = list ++ rest ∧ Argued phrases list rest) ∨
      text.head? = some '(' ∧ ∀ phrases list, SpellsList phrases list → ¬list <+: text := by
  let cursor : Cursor := ⟨0, text⟩
  -- the rule for arguments decides: what it matches is spelled as arguments are
  have either := accepted.matches_or_fails (rules.body_mem_nodes (named "args")) cursor
  simp only [← matches_rule, ← fails_rule] at either
  rcases either with ⟨output, next, found⟩ | failed
  · obtain ⟨phrases, list, -, passes, argued, -, -⟩ := args_spelled found
    exact .inl ⟨phrases, list, next.rest, passes.rest, argued⟩
  · refine .inr ⟨paren_of_fails_args failed, ?_⟩
    rintro phrases list spells ⟨rest, same⟩
    have begins : cursor.rest = list ++ rest := same.symm
    obtain ⟨next, passes, rfl⟩ := Cursor.exists_passes begins
    obtain ⟨_, found, -⟩ := matches_args (.list spells) passes
    exact found.not_fails failed

theorem reads_or_broken (behind : List Char) :
    (∃ phrases rest, Reads behind phrases rest) ∨ Broken behind := by
  obtain ⟨blanks, named, rfl, inline, clear⟩ := exists_run isInline behind
  obtain ⟨name, behindName, rfl, all, nameEnds⟩ := exists_run isNameChar named
  by_cases filled : name = []
  · subst filled
    exact .inr (.nameless inline clear nameEnds)
  rcases argued_or_unlisted behindName with
    ⟨phrases, list, behindList, rfl, argued⟩ | ⟨paren, unlisted⟩
  · obtain ⟨gap, behindGap, rfl, gapInline, gapEnds⟩ := exists_run isInline behindList
    obtain ⟨newline, rest, rfl, isNewLine⟩ := exists_newline behindGap
    exact .inl ⟨phrases, rest, .mk inline filled all nameEnds argued gapInline gapEnds isNewLine⟩
  · exact .inr (.unlisted inline filled all paren unlisted)

theorem Written.Fits.reads {block : Written} (fits : block.Fits rest) :
    Reads (block.blanks ++ (block.name ++ (block.behindName ++ rest))) block.arguments
      (block.body ++ rest) := by
  have nameEnds := fits.nameEnds
  simp only [Written.behindName, List.append_assoc] at nameEnds ⊢
  exact .mk fits.blanks fits.name.1 fits.name.2 nameEnds fits.arguments fits.gap fits.gapEnds
    fits.newline

theorem Reads.fits {body : List Char} (reads : Reads behind phrases (body ++ rest))
    (unopened : Unopened body) (visibility : Visibility) :
    ∃ block : Written, block.Fits rest ∧ opening visibility ++ behind = block.text ++ rest := by
  generalize same : body ++ rest = whole at reads
  obtain @⟨blanks, name, list, gap, newline, _, _, inline, filled, all, nameEnds, argued, gapInline,
    gapEnds, isNewLine⟩ := reads
  subst same
  let block : Written := ⟨visibility, blanks, name, phrases, list, gap, newline, body⟩
  have fits : block.Fits rest := by
    constructor
    case blanks => exact inline
    case name => exact ⟨filled, all⟩
    case nameEnds => simpa only [block, Written.behindName, List.append_assoc] using nameEnds
    case arguments => exact argued
    case gap => exact gapInline
    case gapEnds => exact gapEnds
    case newline => exact isNewLine
    case body => exact unopened
  refine ⟨block, fits, ?_⟩
  simp only [block, Written.text, Written.behindName, List.append_assoc]

theorem starts_of_layout {block : Written} (unopened : Unopened front) (rest : List Char) :
    Starts (front ++ (block.text ++ rest))
      (block.blanks ++ (block.name ++ (block.behindName ++ rest))) := by
  refine starts_iff.mpr ⟨front, block.visibility, unopened, ?_⟩
  simp only [Written.text, List.append_assoc]

theorem LaidOut.reads (laidOut : LaidOut text front blocks) (starts : Starts text behind) :
    ∃ block more rest, blocks = block :: more ∧ Reads behind block.arguments rest ∧
      LaidOut rest block.body more := by
  obtain ⟨unopened, rest, rfl, layout⟩ := laidOut
  cases layout with
  | nil =>
      rw [List.append_nil] at starts
      exact (unopened.not_starts starts).elim
  | @cons block more rest fits layout =>
      cases starts.unique (starts_of_layout unopened rest)
      exact ⟨block, more, _, rfl, fits.reads, fits.body, rest, rfl, layout⟩

theorem LaidOut.scans (laidOut : LaidOut text front blocks) (scans : Scans text lists rest) :
    ∃ body more, LaidOut rest body more ∧
      blocks.map Written.arguments = lists ++ more.map Written.arguments := by
  induction scans generalizing front blocks with
  | nil => exact ⟨front, blocks, laidOut, rfl⟩
  | cons starts reads _ ih =>
      obtain ⟨block, others, _, rfl, here, behind⟩ := laidOut.reads starts
      obtain ⟨rfl, rfl⟩ := here.unique reads
      obtain ⟨body, more, laidOutMore, same⟩ := ih behind
      exact ⟨body, more, laidOutMore, by rw [List.map_cons, same, List.cons_append]⟩

theorem LaidOut.not_stuck (laidOut : LaidOut text front blocks) : ¬Stuck text := by
  rintro ⟨lists, rest, behind, scans, starts, broken⟩
  obtain ⟨body, more, behindScan, -⟩ := laidOut.scans scans
  obtain ⟨block, others, _, -, reads, -⟩ := behindScan.reads starts
  exact reads.not_broken broken

theorem LaidOut.exists_scans (laidOut : LaidOut text front blocks) :
    ∃ rest, Scans text (blocks.map Written.arguments) rest := by
  induction blocks generalizing text front with
  | nil => exact ⟨text, .nil⟩
  | cons block more ih =>
      obtain ⟨unopened, rest, rfl, layout⟩ := laidOut
      cases layout with
      | @cons _ _ rest fits layout =>
          obtain ⟨stop, scans⟩ := ih ⟨fits.body, rest, rfl, layout⟩
          exact ⟨stop, .cons (starts_of_layout unopened rest) fits.reads scans⟩

theorem Reads.length_le (reads : Reads behind phrases rest) : rest.length ≤ behind.length := by
  cases reads
  simp only [List.length_append]
  omega

theorem exists_laidOut {text : List Char} (free : ¬Stuck text) :
    ∃ front blocks, LaidOut text front blocks := by
  rcases unopened_or_starts text with unopened | ⟨behind, starts⟩
  · exact ⟨text, [], unopened, [], (List.append_nil text).symm, .nil⟩
  rcases reads_or_broken behind with ⟨phrases, rest, reads⟩ | broken
  -- a scan from behind this directive is part of the scan of the whole text
  · have shorter : rest.length < text.length := reads.length_le.trans_lt starts.length_lt
    have freeRest : ¬Stuck rest := by
      rintro ⟨lists, stop, further, scans, startsLater, broken⟩
      exact free ⟨phrases :: lists, stop, further, .cons starts reads scans, startsLater, broken⟩
    obtain ⟨body, blocks, unopened, stop, rfl, layout⟩ := exists_laidOut freeRest
    obtain ⟨front, visibility, frontUnopened, same⟩ := starts_iff.mp starts
    obtain ⟨block, fits, sameBlock⟩ := reads.fits unopened visibility
    rw [sameBlock] at same
    exact ⟨front, block :: blocks, frontUnopened, _, same, .cons fits layout⟩
  · exact (free ⟨[], text, behind, .nil, starts, broken⟩).elim
termination_by text.length

theorem Literal.argument?_eq_none {value : Literal} : value.argument? = none ↔ value.TooLarge := by
  cases value with
  | str content => simp [Literal.argument?, Literal.TooLarge]
  | int digits =>
      rw [Literal.argument?, Option.map_eq_none_iff, Integer.number?, Literal.TooLarge]
      split
      next fits => simpa using fits
      next beyond => simpa using beyond

theorem Phrase.argument?_eq_none {phrase : Phrase} :
    phrase.argument? = none ↔ phrase.TooLarge := by
  cases phrase with
  | plain value => exact Literal.argument?_eq_none
  | keyed key value =>
      rw [Phrase.argument?, Option.map_eq_none_iff]
      exact Literal.argument?_eq_none
  | bare word => simp [Phrase.argument?, Phrase.TooLarge]

theorem arguments?_eq_none : arguments? phrases = none ↔ ∃ phrase ∈ phrases, phrase.TooLarge := by
  induction phrases with
  | nil => simp [arguments?]
  | cons phrase rest ih =>
      rw [List.exists_mem_cons_iff, ← Phrase.argument?_eq_none, ← ih, arguments?]
      cases phrase.argument? <;> simp

theorem segments?_eq_none {start : Nat} :
    segments? start blocks = none ↔
      ∃ phrases ∈ blocks.map Written.arguments, ∃ phrase ∈ phrases, phrase.TooLarge := by
  induction blocks generalizing start with
  | nil => simp [segments?]
  | cons block more ih =>
      rw [List.map_cons, List.exists_mem_cons_iff, ← arguments?_eq_none, segments?,
        Written.directive?]
      cases arguments? block.arguments with
      | none => simp
      | some arguments => simpa using ih

theorem LaidOut.overflows_iff (laidOut : LaidOut text front blocks) (start : Nat) :
    Overflows text ↔ segments? start blocks = none := by
  rw [segments?_eq_none]
  constructor
  · rintro ⟨lists, rest, scans, phrases, member, tooLarge⟩
    obtain ⟨_, more, -, same⟩ := laidOut.scans scans
    exact ⟨phrases, same ▸ List.mem_append_left _ member, tooLarge⟩
  · intro tooLarge
    obtain ⟨rest, scans⟩ := laidOut.exists_scans
    exact ⟨_, rest, scans, tooLarge⟩

end Language.Directive

namespace Document

open Language.Directive
open String (utf8Len)

/-- How a text is read is decided by its scan. It is no document if the scan gets stuck; else a
number is malformed if the scan passes one that is out of range, and else it is read. Nothing else
is ever reported. -/
theorem parse_decided_by_scan (text : String) :
    ((∃ diagnostic expected found, parse text = .error diagnostic ∧
        diagnostic.cause = .unexpectedInput expected found) ↔ Stuck text.toList) ∧
      ((∃ diagnostic shown reason, parse text = .error diagnostic ∧
          diagnostic.cause = .malformedBinding "int" shown reason) ↔
        ¬Stuck text.toList ∧ Overflows text.toList) ∧
      ((∃ document, parse text = .ok document) ↔
        ¬Stuck text.toList ∧ ¬Overflows text.toList) ∧
      ∀ diagnostic, parse text = .error diagnostic →
        (∃ expected found, diagnostic.cause = .unexpectedInput expected found) ∨
          ∃ shown reason, diagnostic.cause = .malformedBinding "int" shown reason := by
  by_cases stuck : Stuck text.toList
  · have unreadable (front blocks) : ¬LaidOut text.toList front blocks :=
      fun laidOut => laidOut.not_stuck stuck
    obtain ⟨diagnostic, expected, found, refused, cause⟩ :=
      @refused_of_not_laidOut (.ofInput text) unreadable
    have parsed : parse text = .error diagnostic := refused
    simp [parsed, stuck, cause]
  · obtain ⟨front, blocks, laidOut⟩ := exists_laidOut stuck
    have reduces : Reduces (parse text)
        ((segmentsOf? front blocks).map fun segments => ⟨text, segments⟩) :=
      @reduces_of_laidOut (.ofInput text) front blocks laidOut
    have decided := laidOut.overflows_iff (utf8Len front)
    rw [segmentsOf?] at reduces
    cases known : segments? (utf8Len front) blocks with
    | none =>
        rw [known] at reduces decided
        obtain ⟨diagnostic, shown, reason, parsed, cause⟩ := reduces_none.mp reduces
        simp [parsed, stuck, decided, cause]
    | some segments =>
        rw [known] at reduces decided
        have parsed := reduces_some.mp reduces
        simp [parsed, stuck, decided]

end Document

end PegText
