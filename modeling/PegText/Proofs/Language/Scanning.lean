import PegText.Proofs.Language.ArgumentList
import PegText.Proofs.Language.Layout
import PegText.Proofs.Parse.Depth

/-!
The grammar of directives matches exactly the texts that are laid out as text and blocks.
-/

namespace PegText.Language.Directive

open CharClass (isInline isNameChar isWordChar)
open String (utf8Len)
open Node RuleTable

variable {cursor middle next : Cursor} {output : Output}

theorem matches_flag (flag : Flag) (passes : cursor.Passes [flag.sign] next) :
    rules.Matches (.rule (named "flag")) cursor
      (.fields [(flag.ruleName, .atom (cursor.sliceTo next))]) next := by
  have branch : rules.Matches (.rule (named flag.ruleName)) cursor
      (.fields [(flag.ruleName, .atom (cursor.sliceTo next))]) next := by
    rw [matches_rule, body_ruleName]
    exact .capture (.literal (by simpa using passes))
  rw [matches_rule, body_flag]
  cases flag with
  | visible => exact matches_choice_cons.mpr (.inl branch)
  | hidden =>
      have noShow : rules.Fails (.rule (named "show")) cursor := by
        rw [fails_rule, body_show, fails_capture, fails_literal, passes.rest]
        simp [Flag.sign]
      exact matches_choice_cons.mpr (.inr ⟨noShow, matches_choice_cons.mpr (.inl branch)⟩)

theorem matches_visibility {visibility : Visibility}
    (passes : cursor.Passes visibility.signs.toList next) :
    ∃ output command result, rules.Matches (.rule (named "visibility")) cursor output next ∧
      output.toCapture = visibility.capture command result := by
  rw [Visibility.signs, String.toList_ofList] at passes
  obtain ⟨middle, commandPasses, resultPasses⟩ := Cursor.passes_cons.mp passes
  have command := matches_flag visibility.command commandPasses
  have result := matches_flag visibility.result resultPasses
  refine ⟨.fields
      [("command", .tagged visibility.command.ruleName (.atom (cursor.sliceTo middle))),
        ("result", .tagged visibility.result.ruleName (.atom (middle.sliceTo next)))],
    cursor.sliceTo middle, middle.sliceTo next, ?_, rfl⟩
  rw [matches_rule, body_visibility]
  refine .sequence (.partsCons (.capture command) (.partsCons (.capture result) .partsNil)) ?_
  change Output.mergeAll (.fields [("command", _)]) [.fields [("result", _)]] = _
  simp (disch := decide) [Output.mergeAll, Output.merge, Output.mergeFields, Entries.contains,
    Entries.insert_of_gt, Except.map]
  exact ⟨rfl, rfl⟩

theorem matches_start {visibility : Visibility} {blanks : List Char}
    (passes : cursor.Passes (opening visibility ++ blanks) next) (inline : Inline blanks)
    (clear : Clear isInline next.rest) :
    ∃ command result, rules.Matches (.rule (named "start_command")) cursor
      (.fields [("visibility", visibility.capture command result)]) next := by
  rw [opening_eq] at passes
  obtain ⟨flagged, front, blanksPass⟩ := Cursor.passes_append.mp passes
  obtain ⟨marked, markerPasses, flagsPass⟩ := Cursor.passes_append.mp front
  obtain ⟨flags, command, result, flagsFound, captured⟩ := matches_visibility flagsPass
  have markerFound : rules.Matches (.literal marker) cursor (.text (cursor.sliceTo marked))
      marked := .literal markerPasses
  have blanksFound := reads_inline.matches_maybe.mpr ⟨blanks, ⟨blanksPass, inline, clear⟩, rfl⟩
  refine ⟨command, result, ?_⟩
  rw [matches_rule, body_start_command, ← captured]
  exact .sequence
    (.partsCons markerFound (.partsCons (.capture flagsFound) (.partsCons blanksFound .partsNil)))
    rfl

theorem start_of_opening {visibility : Visibility} (begins : opening visibility <+: cursor.rest) :
    ∃ blanks command result next, cursor.Passes (opening visibility ++ blanks) next ∧
      Inline blanks ∧ Clear isInline next.rest ∧
      rules.Matches (.rule (named "start_command")) cursor
        (.fields [("visibility", visibility.capture command result)]) next := by
  obtain ⟨behind, same⟩ := begins
  obtain ⟨opened, openPasses, -⟩ := Cursor.exists_passes same.symm
  obtain ⟨blanks, next, taken⟩ := Cursor.exists_takes isInline opened
  have passes := openPasses.trans taken.passes
  obtain ⟨command, result, found⟩ := matches_start passes taken.all taken.ended
  exact ⟨blanks, command, result, next, passes, taken.all, taken.ended, found⟩

theorem start_spelled (found : rules.Matches (.rule (named "start_command")) cursor output next) :
    ∃ visibility blanks command result, cursor.Passes (opening visibility ++ blanks) next ∧
      Inline blanks ∧ Clear isInline next.rest ∧
        output = .fields [("visibility", visibility.capture command result)] := by
  obtain ⟨visibility, _, _, _, passes, -⟩ := start_matches found
  have begins : opening visibility <+: cursor.rest := by
    rw [passes.rest, List.append_assoc]
    exact List.prefix_append _ _
  obtain ⟨blanks, command, result, stop, startPasses, inline, clear, start⟩ :=
    start_of_opening begins
  obtain ⟨rfl, rfl⟩ := found.unique start
  exact ⟨visibility, blanks, command, result, startPasses, inline, clear, rfl⟩

theorem fails_start :
    rules.Fails (.rule (named "start_command")) cursor ↔
      ∀ visibility, ¬opening visibility <+: cursor.rest := by
  constructor
  · exact start_fails
  · intro none
    have within : .rule (named "start_command") ∈ rules.nodes :=
      RuleTable.mem_nodes.mpr ⟨named "code", body_code ▸
        Node.mem_nodes_trans (Node.mem_nodes_sequence (by simp)) Node.mem_nodes_capture⟩
    rw [accepted.fails_iff within]
    intro output next found
    obtain ⟨visibility, _, _, _, passes, -⟩ := start_matches found
    refine none visibility ?_
    rw [passes.rest, List.append_assoc]
    exact List.prefix_append _ _

def textNode : Node draft.rules.length := sequence [absent (rule (named "start_command")), any]

theorem fails_textNode : rules.Fails textNode cursor ↔ Opens cursor.rest := by
  rw [textNode, fails_sequence_cons, fails_absent]
  constructor
  · rintro (⟨_, _, start⟩ | ⟨_, middle, absent, failed⟩)
    · obtain ⟨visibility, _, _, _, passes, -⟩ := start_matches start
      refine .inr ⟨visibility, ?_⟩
      rw [passes.rest, List.append_assoc]
      exact List.prefix_append _ _
    · obtain ⟨-, rfl, -⟩ := matches_absent.mp absent
      rcases fails_sequence_cons.mp failed with noneLeft | ⟨_, _, _, never⟩
      · cases noneLeft with
        | gaveUp limited => exact limited.elim
        | anyFails ended => exact .inl ended
      · exact (fails_sequence_nil never).elim
  · rintro (ended | ⟨visibility, begins⟩)
    · have noStart : rules.Fails (.rule (named "start_command")) cursor := by
        rw [fails_start, ended]
        intro visibility
        rw [opening_cons]
        simp
      exact .inr ⟨_, _, .absent noStart, .sequenceFails (.partsFail (.anyFails ended))⟩
    · obtain ⟨_, _, _, _, -, -, -, start⟩ := start_of_opening begins
      exact .inl ⟨_, _, start⟩

theorem rounds_of_unopened {passed : List Char} (passes : cursor.Passes passed next)
    (unopened : Unopened passed) (opens : Opens next.rest) :
    ∃ outputs, rules.Rounds textNode cursor outputs next := by
  induction passed generalizing cursor with
  | nil =>
      cases Cursor.passes_nil.mp passes
      exact ⟨[], .nil⟩
  | cons c passed ih =>
      obtain ⟨middle, one, later⟩ := Cursor.passes_cons.mp passes
      have unopenedLater : Unopened passed := fun visibility found =>
        unopened visibility (found.trans (List.infix_cons (List.infix_refl passed)))
      obtain ⟨outputs, rounds⟩ := ih later unopenedLater
      have noStart : rules.Fails (.rule (named "start_command")) cursor := by
        rw [fails_start, passes.rest]
        exact unopened.append_opening opens (List.cons_ne_nil c passed)
      have round : rules.Matches textNode cursor (.text (cursor.sliceTo middle)) middle :=
        .sequence (.partsCons (.absent noStart) (.partsCons (.any one) .partsNil)) rfl
      exact ⟨_, .cons round rounds⟩

theorem matches_text :
    rules.Matches (.rule (named "text")) cursor output next ↔
      ∃ passed, cursor.Passes passed next ∧ Unopened passed ∧ Opens next.rest ∧
        output = .text ⟨.ofList passed, cursor.offset, next.offset⟩ := by
  have consumes : rules.Consumes textNode := accepted.consumes rfl
  constructor
  · intro found
    obtain ⟨passed, passes, unopened, same⟩ := text_matches found
    have inside := found.of_rule
    rw [body_text] at inside
    obtain ⟨_, _, failed, -⟩ := (matches_repetition consumes).mp inside
    exact ⟨passed, passes, unopened, fails_textNode.mp failed, same⟩
  · rintro ⟨passed, passes, unopened, opens, rfl⟩
    obtain ⟨outputs, rounds⟩ := rounds_of_unopened passes unopened opens
    have inside : rules.Matches (repetition textNode 0 none false) cursor
        (.ofRounds false cursor next outputs) next :=
      (matches_repetition consumes).mpr
        ⟨outputs, rounds, fails_textNode.mpr opens, Nat.zero_le _, rfl⟩
    have found : rules.Matches (.rule (named "text")) cursor
        (.ofRounds false cursor next outputs) next := by
      rw [matches_rule, body_text]
      exact inside
    obtain ⟨again, passesAgain, -, same⟩ := text_matches found
    rw [passes.same_passed passesAgain, ← same]
    exact found

theorem reads_word : rules.ReadsSome (.rule (named "line_word")) isWordChar := by
  refine ReadsSome.rule ?_
  rw [body_line_word, CharClass.accepted_word]
  exact (readsOne_charClass _ _).repetition

def wordNode : Node draft.rules.length :=
  sequence [rule (named "inline_space"), rule (named "line_word")]

theorem LineEnds.clear {rest : List Char} (lineEnds : LineEnds rest) : Clear isWordChar rest := by
  obtain ⟨blanks, tail, rfl, inline, sign⟩ := lineEnds
  refine Clear.behind_run (fun c member => by simp [isWordChar, inline c member]) ?_
  intro c first
  rcases sign c first with rfl | rfl <;> decide

theorem lineEnds_of_clear {blanks tail : List Char} (inline : Inline blanks)
    (clear : Clear isInline tail) (clearWord : Clear isWordChar tail) :
    LineEnds (blanks ++ tail) := by
  refine ⟨blanks, tail, rfl, inline, fun c first => ?_⟩
  have refused := clearWord c first
  simpa [isWordChar, clear c first, or_iff_not_imp_left] using refused

/-- Something that begins with a word is missing behind blanks at the end of the line only. -/
theorem fails_behind_blanks {node : Node draft.rules.length}
    (fails_iff : ∀ {cursor}, rules.Fails node cursor ↔ Clear isWordChar cursor.rest) :
    rules.Fails (sequence [rule (named "inline_space"), node]) cursor ↔
      Clear isInline cursor.rest ∨ LineEnds cursor.rest := by
  rw [fails_sequence_cons, reads_inline.fails_iff]
  constructor
  · rintro (clear | ⟨_, middle, blanks, failed⟩)
    · exact .inl clear
    · obtain ⟨blanks, taken, -, -⟩ := reads_inline.matches_iff.mp blanks
      rcases fails_sequence_cons.mp failed with noWord | ⟨_, _, _, never⟩
      · rw [taken.passes.rest]
        exact .inr (lineEnds_of_clear taken.all taken.ended (fails_iff.mp noWord))
      · exact (fails_sequence_nil never).elim
  · rintro (clear | ⟨blanks, tail, same, inline, sign⟩)
    · exact .inl clear
    have clear {accepts : Char → Bool} (windows : accepts '\r' = false)
        (unix : accepts '\n' = false) : Clear accepts tail := by
      intro c first
      rcases sign c first with rfl | rfl
      · exact windows
      · exact unix
    have clearInline : Clear isInline tail := clear (by decide) (by decide)
    by_cases filled : blanks = []
    · subst filled
      exact .inl (same ▸ clearInline)
    · obtain ⟨middle, passes, rest_eq⟩ := Cursor.exists_passes same
      subst rest_eq
      have blanksFound :=
        reads_inline.matches_iff.mpr ⟨blanks, ⟨passes, inline, clearInline⟩, filled, rfl⟩
      have noWord := fails_iff.mpr (clear (by decide) (by decide))
      exact .inr ⟨_, middle, blanksFound, fails_sequence_cons.mpr (.inl noWord)⟩

theorem fails_wordNode (clearWord : Clear isWordChar cursor.rest) :
    rules.Fails wordNode cursor ↔ LineEnds cursor.rest := by
  rw [wordNode, fails_behind_blanks reads_word.fails_iff]
  constructor
  · rintro (clear | lineEnds)
    · exact lineEnds_of_clear inline_nil clear clearWord
    · exact lineEnds
  · exact .inr

theorem Word.clear {word rest : List Char} (isWord : Word word) : Clear isInline (word ++ rest) := by
  refine Clear.of_run isWord.1 fun c member => ?_
  have accepted := isWord.2 c member
  by_contra isInline
  simp [isWordChar, isInline] at accepted

theorem rounds_words {outputs : List Output} (rounds : rules.Rounds wordNode cursor outputs next)
    (clear : Clear isWordChar cursor.rest) :
    ∃ text, cursor.Passes text next ∧ SpellsWords text ∧ Clear isWordChar next.rest := by
  induction rounds with
  | nil => exact ⟨[], .refl _, .nil, clear⟩
  | cons found _ ih =>
      obtain ⟨_, inTurn, -⟩ := found.of_sequence
      obtain ⟨_, middle, _, blanksFound, behind, rfl⟩ := inTurn.of_cons
      obtain ⟨_, stop, _, wordFound, ended, rfl⟩ := behind.of_cons
      obtain ⟨rfl, rfl⟩ := ended.of_nil
      obtain ⟨blanks, blanksTaken, filled, -⟩ := reads_inline.matches_iff.mp blanksFound
      obtain ⟨word, wordTaken, wordFilled, -⟩ := reads_word.matches_iff.mp wordFound
      obtain ⟨text, passes, spells, clearNext⟩ := ih wordTaken.ended
      exact ⟨_, (blanksTaken.passes.trans wordTaken.passes).trans passes,
        .cons filled blanksTaken.all ⟨wordFilled, wordTaken.all⟩ spells, clearNext⟩

theorem SpellsWords.clear {text rest : List Char} (spells : SpellsWords text)
    (lineEnds : LineEnds rest) : Clear isWordChar (text ++ rest) := by
  cases spells with
  | nil => exact lineEnds.clear
  | @cons blanks word more filled inline =>
      rw [List.append_assoc, List.append_assoc]
      exact Clear.of_run filled fun c member => by simp [isWordChar, inline c member]

theorem rounds_of_words {text : List Char} (spells : SpellsWords text)
    (passes : cursor.Passes text next) (lineEnds : LineEnds next.rest) :
    ∃ outputs, rules.Rounds wordNode cursor outputs next ∧
      ∀ round ∈ outputs, round.isText = true := by
  induction spells generalizing cursor with
  | nil =>
      cases Cursor.passes_nil.mp passes
      exact ⟨[], .nil, by simp⟩
  | @cons blanks word more filled inline isWord spellsMore ih =>
      obtain ⟨stop, front, morePasses⟩ := Cursor.passes_append.mp passes
      obtain ⟨middle, blanksPass, wordPasses⟩ := Cursor.passes_append.mp front
      obtain ⟨outputs, rounds, texts⟩ := ih morePasses
      have clearInline : Clear isInline middle.rest := wordPasses.rest ▸ isWord.clear
      have clearWord : Clear isWordChar stop.rest := morePasses.rest ▸ spellsMore.clear lineEnds
      have blanksFound :=
        reads_inline.matches_iff.mpr ⟨blanks, ⟨blanksPass, inline, clearInline⟩, filled, rfl⟩
      have wordFound :=
        reads_word.matches_iff.mpr ⟨word, ⟨wordPasses, isWord.2, clearWord⟩, isWord.1, rfl⟩
      have round : rules.Matches wordNode cursor (.text (cursor.sliceTo stop)) stop :=
        .sequence (.partsCons blanksFound (.partsCons wordFound .partsNil)) rfl
      exact ⟨_, .cons round rounds, List.forall_mem_cons.mpr ⟨rfl, texts⟩⟩

theorem matches_line_text :
    rules.Matches (.rule (named "line_text")) cursor output next ↔
      ∃ line, cursor.Passes line next ∧ SpellsLine line ∧ LineEnds next.rest ∧
        output = .text (cursor.sliceTo next) := by
  have consumes : rules.Consumes wordNode := accepted.consumes rfl
  constructor
  · intro found
    have captured : capture "bare" (rule (named "line_text")) ∈ rules.nodes :=
      part_mem_nodes body_line_args (by simp)
    have isText : output = .text (cursor.sliceTo next) :=
      accepted.eq_text (RuleTable.mem_nodes_of_inner captured Node.mem_nodes_capture) rfl found
    rw [matches_rule, body_line_text] at found
    obtain ⟨outputs, inTurn, -⟩ := found.of_sequence
    obtain ⟨_, middle, _, wordFound, behind, rfl⟩ := inTurn.of_cons
    obtain ⟨_, stop, _, moreFound, ended, rfl⟩ := behind.of_cons
    obtain ⟨rfl, rfl⟩ := ended.of_nil
    obtain ⟨word, taken, filled, -⟩ := reads_word.matches_iff.mp wordFound
    obtain ⟨rounds, roundsFound, failed, -, -⟩ := (matches_repetition consumes).mp moreFound
    obtain ⟨text, passes, spells, clear⟩ := rounds_words roundsFound taken.ended
    exact ⟨_, taken.passes.trans passes, .mk ⟨filled, taken.all⟩ spells,
      (fails_wordNode clear).mp failed, isText⟩
  · rintro ⟨_, passes, ⟨isWord, spells⟩, lineEnds, rfl⟩
    obtain ⟨middle, wordPasses, morePasses⟩ := Cursor.passes_append.mp passes
    obtain ⟨outputs, rounds, texts⟩ := rounds_of_words spells morePasses lineEnds
    have clear : Clear isWordChar middle.rest := morePasses.rest ▸ spells.clear lineEnds
    have wordFound :=
      reads_word.matches_iff.mpr ⟨_, ⟨wordPasses, isWord.2, clear⟩, isWord.1, rfl⟩
    have moreFound : rules.Matches (repetition wordNode 0 none false) middle
        (.text (middle.sliceTo next)) next :=
      (matches_repetition consumes).mpr
        ⟨outputs, rounds, (fails_wordNode lineEnds.clear).mpr lineEnds, Nat.zero_le _,
          (Output.ofRounds_texts texts).symm⟩
    rw [matches_rule, body_line_text]
    exact .sequence (.partsCons wordFound (.partsCons moreFound .partsNil)) rfl

theorem fails_line_text :
    rules.Fails (.rule (named "line_text")) cursor ↔ Clear isWordChar cursor.rest := by
  rw [fails_rule, body_line_text, fails_sequence_cons, reads_word.fails_iff]
  constructor
  · rintro (clear | ⟨_, middle, _, failed⟩)
    · exact clear
    · rcases fails_sequence_cons.mp failed with never | ⟨_, _, _, never⟩
      · exact never.of_repetition.elim
      · exact (fails_sequence_nil never).elim
  · exact .inl

theorem matches_line_args :
    rules.Matches (.rule (named "line_args")) cursor output next ↔
      ∃ blanks line middle, cursor.Passes blanks middle ∧ blanks ≠ [] ∧ Inline blanks ∧
        middle.Passes line next ∧ SpellsLine line ∧ LineEnds next.rest ∧
          output = .fields [("bare", .atom (middle.sliceTo next))] := by
  rw [matches_rule, body_line_args]
  constructor
  · intro found
    obtain ⟨outputs, inTurn, merged⟩ := found.of_sequence
    obtain ⟨_, middle, _, blanksFound, behind, rfl⟩ := inTurn.of_cons
    obtain ⟨_, stop, _, lineFound, ended, rfl⟩ := behind.of_cons
    obtain ⟨rfl, rfl⟩ := ended.of_nil
    obtain ⟨blanks, taken, filled, rfl⟩ := reads_inline.matches_iff.mp blanksFound
    obtain ⟨_, textFound, rfl⟩ := lineFound.of_capture
    obtain ⟨line, passes, spells, lineEnds, rfl⟩ := matches_line_text.mp textFound
    cases merged
    exact ⟨blanks, line, middle, taken.passes, filled, taken.all, passes, spells, lineEnds, rfl⟩
  · rintro ⟨blanks, line, middle, blanksPass, filled, inline, passes, spells, lineEnds, rfl⟩
    have clear : Clear isInline middle.rest := by
      obtain ⟨isWord, -⟩ := spells
      rw [passes.rest, List.append_assoc]
      exact isWord.clear
    have blanksFound := reads_inline.matches_iff.mpr ⟨blanks, ⟨blanksPass, inline, clear⟩, filled, rfl⟩
    have lineFound := matches_line_text.mpr ⟨line, passes, spells, lineEnds, rfl⟩
    exact .sequence (.partsCons blanksFound (.partsCons (.capture lineFound) .partsNil)) rfl

theorem fails_line_args :
    rules.Fails (.rule (named "line_args")) cursor ↔
      Clear isInline cursor.rest ∨ LineEnds cursor.rest := by
  rw [fails_rule, body_line_args]
  exact fails_behind_blanks (fails_capture.trans fails_line_text)

def openNode : Node draft.rules.length :=
  sequence [absent (literal "("), repetition (rule (named "line_args")) 0 (some 1) true]

theorem args_spelled (found : rules.Matches (.rule (named "args")) cursor output next) :
    ∃ phrases text captures, cursor.Passes text next ∧ Argued phrases text next.rest ∧
      output = .list captures ∧ List.Forall₂ Phrase.Pictures phrases captures := by
  rw [matches_rule, body_args] at found
  rcases matches_choice_cons.mp found with parens | ⟨-, behindParens⟩
  · obtain ⟨phrases, text, captures, passes, spells, rfl, pictures⟩ := paren_args_spelled parens
    exact ⟨phrases, text, captures, passes, .list spells, rfl, pictures⟩
  rcases matches_choice_cons.mp behindParens with opened | ⟨-, none⟩
  · obtain ⟨outputs, inTurn, merged⟩ := opened.of_sequence
    obtain ⟨_, here, _, noParen, behind, rfl⟩ := inTurn.of_cons
    obtain ⟨_, stop, _, lineFound, ended, rfl⟩ := behind.of_cons
    obtain ⟨rfl, rfl⟩ := ended.of_nil
    obtain ⟨failed, rfl, rfl⟩ := matches_absent.mp noParen
    rcases matches_maybe.mp lineFound with ⟨yielded, inside, rfl⟩ | ⟨noLine, rfl, rfl⟩
    · obtain ⟨blanks, line, middle, blanksPass, filled, inline, passes, spells, lineEnds, rfl⟩ :=
        matches_line_args.mp inside
      cases merged
      exact ⟨[.bare line], _, _, blanksPass.trans passes, .line filled inline spells lineEnds, rfl,
        .cons (.bare (text_sliceTo passes)) .nil⟩
    · cases merged
      have other : next.rest.head? ≠ some '(' := by
        intro begins
        rw [fails_literal] at failed
        cases same : next.rest with
        | nil => simp [same] at begins
        | cons c rest =>
            rw [same] at begins failed
            cases begins
            exact failed ⟨rest, rfl⟩
      exact ⟨[], [], [], .refl _, .none other (fails_line_args.mp noLine), rfl, .nil⟩
  · exact (matches_choice_nil none).elim

theorem matches_opened {captures : List Capture} (other : cursor.rest.head? ≠ some '(')
    (found : rules.Matches (repetition (rule (named "line_args")) 0 (some 1) true) cursor
      (.list captures) next) :
    rules.Matches (.rule (named "args")) cursor (.list captures) next := by
  have noParen : rules.Fails (.literal "(") cursor := by
    rw [fails_literal]
    rintro ⟨rest, same⟩
    exact other (same ▸ rfl)
  have noParens : rules.Fails (.rule (named "paren_args")) cursor := by
    rw [fails_rule, body_paren_args, fails_sequence_cons]
    exact .inl noParen
  have opened : rules.Matches openNode cursor (.list captures) next :=
    .sequence (.partsCons (.absent noParen) (.partsCons found .partsNil)) rfl
  rw [matches_rule, body_args]
  exact matches_choice_cons.mpr (.inr ⟨noParens, matches_choice_cons.mpr (.inl opened)⟩)

theorem matches_args {phrases : List Phrase} {text : List Char}
    (argued : Argued phrases text next.rest) (passes : cursor.Passes text next) :
    ∃ captures, rules.Matches (.rule (named "args")) cursor (.list captures) next ∧
      List.Forall₂ Phrase.Pictures phrases captures := by
  cases argued with
  | list spells =>
      obtain ⟨captures, found, pictures⟩ := matches_paren_args spells passes
      refine ⟨captures, ?_, pictures⟩
      rw [matches_rule, body_args]
      exact matches_choice_cons.mpr (.inl found)
  | @line blanks line _ filled inline spells lineEnds =>
      obtain ⟨middle, blanksPass, linePasses⟩ := Cursor.passes_append.mp passes
      have found := matches_line_args.mpr
        ⟨blanks, line, middle, blanksPass, filled, inline, linePasses, spells, lineEnds, rfl⟩
      have other : cursor.rest.head? ≠ some '(' := by
        rw [passes.rest]
        cases blanks with
        | nil => exact (filled rfl).elim
        | cons c blanks =>
            intro begins
            cases begins
            exact absurd (inline '(' List.mem_cons_self) (by decide)
      exact ⟨_, matches_opened other (matches_maybe.mpr (.inl ⟨_, found, rfl⟩)),
        .cons (.bare (text_sliceTo linePasses)) .nil⟩
  | none other clear =>
      cases Cursor.passes_nil.mp passes
      exact ⟨[], matches_opened other
        (matches_maybe.mpr (.inr ⟨fails_line_args.mpr clear, rfl, rfl⟩)), .nil⟩

theorem matches_newline :
    rules.Matches (repetition (rule (named "newline")) 0 (some 1) false) cursor output next ↔
      ∃ newline, cursor.Passes newline next ∧ NewLine newline next.rest ∧
        output = .text (cursor.sliceTo next) := by
  rw [matches_maybe, fails_rule, body_newline, fails_choice]
  simp only [matches_rule, body_newline, List.forall_mem_cons, List.not_mem_nil, false_imp_iff,
    implies_true, and_true, fails_literal]
  constructor
  · rintro (⟨_, found, rfl⟩ | ⟨⟨noWindows, noUnix⟩, rfl, rfl⟩)
    · rcases matches_choice_cons.mp found with windows | ⟨-, later⟩
      · obtain ⟨passes, rfl⟩ := windows.of_literal
        exact ⟨_, passes, .windows, rfl⟩
      rcases matches_choice_cons.mp later with unix | ⟨-, none⟩
      · obtain ⟨passes, rfl⟩ := unix.of_literal
        exact ⟨_, passes, .unix, rfl⟩
      · exact (matches_choice_nil none).elim
    · exact ⟨[], .refl _, .none noWindows noUnix, rfl⟩
  · rintro ⟨newline, passes, isNewLine, rfl⟩
    cases isNewLine with
    | windows =>
        have windows : rules.Matches (.literal "\r\n") cursor (.text (cursor.sliceTo next)) next :=
          .literal passes
        exact .inl ⟨_, matches_choice_cons.mpr (.inl windows), rfl⟩
    | unix =>
        have unix : rules.Matches (.literal "\n") cursor (.text (cursor.sliceTo next)) next :=
          .literal passes
        have noWindows : rules.Fails (.literal "\r\n") cursor := by
          rw [fails_literal, passes.rest]
          simp
        exact .inl ⟨_, matches_choice_cons.mpr
          (.inr ⟨noWindows, matches_choice_cons.mpr (.inl unix)⟩), rfl⟩
    | none noWindows noUnix =>
        cases Cursor.passes_nil.mp passes
        exact .inr ⟨⟨noWindows, noUnix⟩, rfl, rfl⟩

theorem matches_name :
    rules.Matches (.rule (named "funcall")) cursor output next ↔
      ∃ name, cursor.Takes isNameChar name next ∧ name ≠ [] ∧
        output = .fields [("funcall", .atom (cursor.sliceTo next))] := by
  rw [matches_rule, body_funcall, CharClass.accepted_name]
  exact (readsOne_charClass _ _).repetition.matches_capture

/-- What the rule for a block matches is a block that is written well. -/
theorem code_spelled (found : rules.Matches (.rule (named "code")) cursor output next) :
    ∃ block capture, cursor.Passes (Written.text block) next ∧ block.Fits next.rest ∧
      Opens next.rest ∧ output.roundItems = [capture] ∧ Shows block next.offset capture := by
  rw [matches_rule, body_code] at found
  obtain ⟨_, inside, rfl⟩ := found.of_capture
  obtain ⟨_, inTurn, merged⟩ := inside.of_sequence
  obtain ⟨_, started, _, startFound, behindStart, rfl⟩ := inTurn.of_cons
  obtain ⟨_, stop, _, commandFound, nothing, rfl⟩ := behindStart.of_cons
  obtain ⟨rfl, rfl⟩ := nothing.of_nil
  rw [matches_rule, body_command] at commandFound
  obtain ⟨_, commandTurn, commandMerged⟩ := commandFound.of_sequence
  obtain ⟨_, nameStop, _, nameFound, behindName, rfl⟩ := commandTurn.of_cons
  obtain ⟨_, listStop, _, listFound, behindList, rfl⟩ := behindName.of_cons
  obtain ⟨_, gapStop, _, gapFound, behindGap, rfl⟩ := behindList.of_cons
  obtain ⟨_, lineStop, _, newlineFound, behindLine, rfl⟩ := behindGap.of_cons
  obtain ⟨_, bodyStop, _, bodyFound, ended, rfl⟩ := behindLine.of_cons
  obtain ⟨rfl, rfl⟩ := ended.of_nil
  obtain ⟨visibility, blanks, command, result, startPasses, inline, -, rfl⟩ :=
    start_spelled startFound
  obtain ⟨name, nameTaken, filled, rfl⟩ := matches_name.mp nameFound
  obtain ⟨_, argsFound, rfl⟩ := listFound.of_capture
  obtain ⟨phrases, list, captures, listPasses, argued, rfl, pictures⟩ := args_spelled argsFound
  obtain ⟨gap, gapTaken, rfl⟩ := reads_inline.matches_maybe.mp gapFound
  obtain ⟨newline, newlinePasses, isNewLine, rfl⟩ := matches_newline.mp newlineFound
  rw [matches_rule, body_stdin] at bodyFound
  obtain ⟨_, textFound, rfl⟩ := bodyFound.of_capture
  obtain ⟨body, bodyPasses, unopened, opens, rfl⟩ := matches_text.mp textFound
  cases (ofSequence_command _ _ _ _ _ _ _).symm.trans commandMerged
  cases (ofSequence_code _ _ _ _ _ _).symm.trans merged
  let block : Written := ⟨visibility, blanks, name, phrases, list, gap, newline, body⟩
  have behind : nameStop.Passes block.behindName next :=
    listPasses.trans (gapTaken.passes.trans (newlinePasses.trans bodyPasses))
  have passes : cursor.Passes block.text next := startPasses.trans (nameTaken.passes.trans behind)
  have fits : block.Fits next.rest := by
    constructor
    case blanks => exact inline
    case name => exact ⟨filled, nameTaken.all⟩
    case nameEnds => exact behind.rest ▸ nameTaken.ended
    case arguments =>
      rwa [gapTaken.passes.rest, newlinePasses.rest, bodyPasses.rest] at argued
    case gap => exact gapTaken.all
    case gapEnds =>
      have clear : Clear isInline gapStop.rest := gapTaken.ended
      rwa [newlinePasses.rest, bodyPasses.rest] at clear
    case newline => exact bodyPasses.rest ▸ isNewLine
    case body => exact unopened
  exact ⟨block, _, passes, fits, opens, rfl, .mk (text_sliceTo nameTaken.passes) pictures⟩

/-- What stands behind the opening of a block. -/
theorem matches_command {block : Written}
    (passes : cursor.Passes (block.name ++ block.behindName) next) (fits : block.Fits next.rest)
    (opens : Opens next.rest) :
    ∃ name captures start, name.text = .ofList block.name ∧
      List.Forall₂ Phrase.Pictures block.arguments captures ∧
        rules.Matches (.rule (named "command")) cursor
          (.fields
            [("arglist", .list captures), ("funcall", .atom name),
              ("stdin", .atom ⟨.ofList block.body, start, next.offset⟩)]) next := by
  obtain ⟨nameStop, namePasses, behindName⟩ := Cursor.passes_append.mp passes
  obtain ⟨listStop, listPasses, behindList⟩ := Cursor.passes_append.mp behindName
  obtain ⟨gapStop, gapPasses, behindGap⟩ := Cursor.passes_append.mp behindList
  obtain ⟨lineStop, newlinePasses, bodyPasses⟩ := Cursor.passes_append.mp behindGap
  have nameTaken : cursor.Takes isNameChar block.name nameStop :=
    ⟨namePasses, fits.name.2, behindName.rest ▸ fits.nameEnds⟩
  have argued : Argued block.arguments block.list listStop.rest := by
    rw [gapPasses.rest, newlinePasses.rest, bodyPasses.rest]
    exact fits.arguments
  have gapEnds : Clear isInline gapStop.rest := by
    rw [newlinePasses.rest, bodyPasses.rest]
    exact fits.gapEnds
  have nameFound := matches_name.mpr ⟨_, nameTaken, fits.name.1, rfl⟩
  obtain ⟨captures, argsFound, pictures⟩ := matches_args argued listPasses
  have gapFound := reads_inline.matches_maybe.mpr ⟨_, ⟨gapPasses, fits.gap, gapEnds⟩, rfl⟩
  have newlineFound := matches_newline.mpr
    ⟨_, newlinePasses, bodyPasses.rest ▸ fits.newline, rfl⟩
  have textFound := matches_text.mpr ⟨_, bodyPasses, fits.body, opens, rfl⟩
  have stdinFound : rules.Matches (.rule (named "stdin")) lineStop
      (.fields [("stdin", .atom ⟨.ofList block.body, lineStop.offset, next.offset⟩)]) next := by
    rw [matches_rule, body_stdin]
    exact .capture textFound
  refine ⟨_, captures, lineStop.offset, text_sliceTo namePasses, pictures, ?_⟩
  rw [matches_rule, body_command]
  exact .sequence
    (.partsCons nameFound
      (.partsCons (.capture argsFound)
        (.partsCons gapFound (.partsCons newlineFound (.partsCons stdinFound .partsNil)))))
    (ofSequence_command ..)

/-- A block that is written well is matched as far as it goes. -/
theorem matches_code {block : Written} (passes : cursor.Passes block.text next)
    (fits : block.Fits next.rest) (opens : Opens next.rest) :
    ∃ output capture, rules.Matches (.rule (named "code")) cursor output next ∧
      output.roundItems = [capture] ∧ Shows block next.offset capture := by
  obtain ⟨started, startPasses, behindStart⟩ := Cursor.passes_append.mp passes
  have isWord : Word block.name :=
    ⟨fits.name.1, fun c member => CharClass.isWordChar_of_isNameChar (fits.name.2 c member)⟩
  have clearName : Clear isInline started.rest := by
    rw [behindStart.rest, List.append_assoc]
    exact isWord.clear
  obtain ⟨command, result, startFound⟩ := matches_start startPasses fits.blanks clearName
  obtain ⟨name, captures, start, sameName, pictures, commandFound⟩ :=
    matches_command behindStart fits opens
  have codeFound : rules.Matches (.rule (named "code")) cursor
      (.fields
        [("code",
          .record
            [("arglist", .list captures), ("funcall", .atom name),
              ("stdin", .atom ⟨.ofList block.body, start, next.offset⟩),
              ("visibility", block.visibility.capture command result)])]) next := by
    rw [matches_rule, body_code]
    exact .capture
      (.sequence (.partsCons startFound (.partsCons commandFound .partsNil)) (ofSequence_code ..))
  exact ⟨_, _, codeFound, rfl, .mk sameName pictures⟩

theorem fails_code_of_ended (ended : cursor.rest = []) :
    rules.Fails (.rule (named "code")) cursor := by
  rw [fails_rule, body_code, fails_capture, fails_sequence_cons, fails_start, ended]
  refine .inl fun visibility => ?_
  rw [opening_cons]
  simp

theorem blocks_spelled {outputs : List Output}
    (rounds : rules.Rounds (.rule (named "code")) cursor outputs next) (ended : next.rest = []) :
    ∃ blocks, Layout blocks cursor.rest ∧
      ShowsAll cursor.offset blocks (outputs.flatMap Output.roundItems) := by
  induction rounds with
  | nil =>
      rw [ended]
      exact ⟨[], .nil, .nil⟩
  | cons found _ ih =>
      obtain ⟨block, capture, passes, fits, -, items, shows⟩ := code_spelled found
      obtain ⟨blocks, layout, showsAll⟩ := ih ended
      rw [passes.offset] at shows showsAll
      rw [passes.rest, List.flatMap_cons, items]
      exact ⟨block :: blocks, .cons fits layout, .cons shows showsAll⟩

theorem rounds_of_blocks {blocks : List Written} {text : List Char} (layout : Layout blocks text)
    (same : cursor.rest = text) :
    ∃ outputs next, rules.Rounds (.rule (named "code")) cursor outputs next ∧ next.rest = [] ∧
      ShowsAll cursor.offset blocks (outputs.flatMap Output.roundItems) := by
  induction layout generalizing cursor with
  | nil => exact ⟨[], cursor, .nil, same, .nil⟩
  | cons fits behind ih =>
      obtain ⟨middle, passes, rfl⟩ := Cursor.exists_passes same
      obtain ⟨output, capture, found, items, shows⟩ := matches_code passes fits behind.opens
      obtain ⟨outputs, next, rounds, ended, showsAll⟩ := ih rfl
      rw [passes.offset] at shows showsAll
      refine ⟨output :: outputs, next, .cons found rounds, ended, ?_⟩
      rw [List.flatMap_cons, items]
      exact .cons shows showsAll

def documentCapture (start : Nat) (front : List Char) (captures : List Capture) : Capture :=
  .list (.tagged "no_code" (.atom ⟨.ofList front, start, start + utf8Len front⟩) :: captures)

theorem document_spelled
    (found : rules.Matches (.rule (named "document")) cursor output next) (ended : next.rest = []) :
    ∃ front blocks rest captures, cursor.rest = front ++ rest ∧ Unopened front ∧
      Layout blocks rest ∧ ShowsAll (cursor.offset + utf8Len front) blocks captures ∧
        output.toCapture = documentCapture cursor.offset front captures := by
  have consumes : rules.Consumes (.rule (named "code")) := accepted.consumes rfl
  rw [matches_rule, body_document] at found
  obtain ⟨_, inTurn, merged⟩ := found.of_sequence
  obtain ⟨_, middle, _, frontFound, behindFront, rfl⟩ := inTurn.of_cons
  obtain ⟨_, stop, _, blocksFound, nothing, rfl⟩ := behindFront.of_cons
  obtain ⟨rfl, rfl⟩ := nothing.of_nil
  rw [matches_rule, body_no_code] at frontFound
  obtain ⟨_, textFound, rfl⟩ := frontFound.of_capture
  obtain ⟨front, passes, unopened, -, rfl⟩ := matches_text.mp textFound
  obtain ⟨outputs, rounds, -, -, rfl⟩ := (matches_repetition consumes).mp blocksFound
  obtain ⟨blocks, layout, shows⟩ := blocks_spelled rounds ended
  cases merged
  rw [passes.offset] at shows ⊢
  exact ⟨front, blocks, middle.rest, _, passes.rest, unopened, layout, shows, rfl⟩

theorem matches_document {front rest : List Char} {blocks : List Written}
    (same : cursor.rest = front ++ rest) (unopened : Unopened front)
    (layout : Layout blocks rest) :
    ∃ output next captures, rules.Matches (.rule (named "document")) cursor output next ∧
      next.rest = [] ∧ ShowsAll (cursor.offset + utf8Len front) blocks captures ∧
        output.toCapture = documentCapture cursor.offset front captures := by
  have consumes : rules.Consumes (.rule (named "code")) := accepted.consumes rfl
  obtain ⟨middle, passes, rfl⟩ := Cursor.exists_passes same
  obtain ⟨outputs, next, rounds, ended, shows⟩ := rounds_of_blocks layout rfl
  have textFound := matches_text.mpr ⟨front, passes, unopened, layout.opens, rfl⟩
  have frontFound : rules.Matches (.rule (named "no_code")) cursor
      (.fields [("no_code", .atom ⟨.ofList front, cursor.offset, middle.offset⟩)]) middle := by
    rw [matches_rule, body_no_code]
    exact .capture textFound
  have blocksFound : rules.Matches (repetition (rule (named "code")) 0 none true) middle
      (.list (outputs.flatMap Output.roundItems)) next :=
    (matches_repetition consumes).mpr
      ⟨outputs, rounds, fails_code_of_ended ended, Nat.zero_le _, rfl⟩
  have found : rules.Matches (.rule (named "document")) cursor
      (.list (.tagged "no_code" (.atom ⟨.ofList front, cursor.offset, middle.offset⟩) ::
        outputs.flatMap Output.roundItems)) next := by
    rw [matches_rule, body_document]
    exact .sequence (.partsCons frontFound (.partsCons blocksFound .partsNil)) rfl
  rw [passes.offset] at shows found
  exact ⟨_, next, _, found, ended, shows, rfl⟩

variable {source : Source}

abbrev checked : Grammar :=
  ⟨draft.name, draft.rules.length, rules, named "document", draft.maxNesting⟩

theorem grammar_parseSource (source : Source) :
    grammar.parseSource none source =
      checked.parseWith (named "document") source draft.maxNesting := by
  rw [grammar_eq]
  rfl

theorem never_exceeds (text : String) :
    (checked.run (named "document") text draft.maxNesting).2.exceeded = none :=
  RuleTable.run_deep height_body draft.maxNesting _ _ _
    (Nat.le_trans (height_body (named "document")) (by decide +kernel)) rfl

theorem parseSource_eq_ok {capture : Capture} :
    grammar.parseSource none source = .ok capture ↔
      ∃ output stop, rules.Matches (.rule (named "document")) (.start source.text) output stop ∧
        stop.rest = [] ∧ capture = output.toCapture := by
  rw [grammar_parseSource]
  exact @Grammar.parseWith_eq_ok checked facts (named "document") source draft.maxNesting accepted
    (never_exceeds source.text) capture

theorem parseSource_of_laidOut {front : List Char} {blocks : List Written}
    (laidOut : LaidOut source.text.toList front blocks) :
    ∃ captures, ShowsAll (utf8Len front) blocks captures ∧
      grammar.parseSource none source = .ok (documentCapture 0 front captures) := by
  obtain ⟨rest, same, layout⟩ := laidOut.behind
  have begins : (Cursor.start source.text).rest = front ++ rest := same
  obtain ⟨output, stop, captures, found, ended, shows, captured⟩ :=
    matches_document begins laidOut.unopened layout
  rw [Cursor.start, Nat.zero_add] at shows
  exact ⟨captures, shows, parseSource_eq_ok.mpr ⟨output, stop, found, ended, captured.symm⟩⟩

theorem parseSource_refused
    (unreadable : ∀ front blocks, ¬LaidOut source.text.toList front blocks) :
    ∃ diagnostic expected found, grammar.parseSource none source = .error diagnostic ∧
      diagnostic.cause = .unexpectedInput expected found := by
  rw [grammar_parseSource]
  rcases Grammar.conclude_of_settled source draft.maxNesting (never_exceeds source.text) with
    ⟨capture, parsed⟩ | ⟨diagnostic, expected, found, parsed, cause⟩
  · have known := (grammar_parseSource source).trans parsed
    obtain ⟨output, stop, found, ended, -⟩ := parseSource_eq_ok.mp known
    obtain ⟨front, blocks, rest, _, same, unopened, layout, -⟩ := document_spelled found ended
    exact (unreadable front blocks ⟨unopened, rest, same, layout⟩).elim
  · exact ⟨diagnostic, expected, found, parsed, cause⟩

end PegText.Language.Directive
