import PegText.Proofs.Language.Expression
import PegText.Proofs.Language.Phrase

/-!
The grammar of expressions matches exactly the texts that spell a phrase. In one direction every
match is taken apart into the tokens it has passed; in the other the ordered choice and the greedy
repetitions are seen never to miss a spelling, because the first character of each token and what
may stand behind it tell the alternatives apart.
-/

namespace PegText.Language.Expression

open CharClass (isAsciiDigit isIdentifierLetter)
open Node RuleTable

variable {cursor middle next : Cursor} {output : Output}

def Ended (rest : List Char) : Prop := ∀ c, rest.head? = some c → c = ',' ∨ c = ')'

theorem reads_space : rules.ReadsSome (.rule (named "space")) isWhiteSpace := by
  refine ReadsSome.rule ?_
  rw [body_space, CharClass.accepted_space]
  exact (readsOne_charClass _ _).repetition

theorem matches_spaces :
    rules.Matches (.rule (named "space?")) cursor output next ↔
      ∃ blanks, cursor.Takes isWhiteSpace blanks next ∧ output = .text (cursor.sliceTo next) := by
  rw [matches_rule, body_spaces, reads_space.matches_maybe]

theorem passes_spaces (found : rules.Matches (.rule (named "space?")) cursor output next) :
    ∃ blanks, cursor.Passes blanks next ∧ Blank blanks ∧ Clear isWhiteSpace next.rest ∧
      output = .text (cursor.sliceTo next) := by
  obtain ⟨blanks, taken, same⟩ := matches_spaces.mp found
  exact ⟨blanks, taken.passes, taken.all, taken.ended, same⟩

theorem padded_matches {node : Node draft.rules.length}
    (found : rules.Matches (sequence [node, rule (named "space?")]) cursor output next) :
    ∃ yielded middle blanks, rules.Matches node cursor yielded middle ∧
      middle.Passes blanks next ∧ Blank blanks ∧ Clear isWhiteSpace next.rest ∧
        output = if yielded.isText then .text (cursor.sliceTo next) else yielded := by
  obtain ⟨outputs, inTurn, merged⟩ := found.of_sequence
  obtain ⟨yielded, middle, _, first, behind, rfl⟩ := inTurn.of_cons
  obtain ⟨_, stop, _, spaces, ended, rfl⟩ := behind.of_cons
  obtain ⟨rfl, rfl⟩ := ended.of_nil
  obtain ⟨blanks, passes, blank, clear, rfl⟩ := passes_spaces spaces
  refine ⟨yielded, middle, blanks, first, passes, blank, clear, ?_⟩
  cases yielded <;> exact (Except.ok.inj merged).symm

theorem matches_padded {node : Node draft.rules.length} {yielded : Output} {blanks : List Char}
    (found : rules.Matches node cursor yielded middle) (passes : middle.Passes blanks next)
    (blank : Blank blanks) (clear : Clear isWhiteSpace next.rest) :
    rules.Matches (sequence [node, rule (named "space?")]) cursor
      (if yielded.isText then .text (cursor.sliceTo next) else yielded) next := by
  have spaces := matches_spaces.mpr ⟨blanks, ⟨passes, blank, clear⟩, rfl⟩
  refine .sequence (.partsCons found (.partsCons spaces .partsNil)) ?_
  cases yielded <;> rfl

theorem integer_matches (found : rules.Matches (.rule (named "integer")) cursor output next) :
    ∃ (digits blanks : List Char) (slice : Slice), cursor.Passes (digits ++ blanks) next ∧
      Numeral digits ∧ Blank blanks ∧ Clear isWhiteSpace next.rest ∧
        slice.text = .ofList digits ∧ output = .fields [("int", .atom slice)] := by
  rw [matches_rule, body_integer] at found
  obtain ⟨_, middle, blanks, digitsFound, passes, blank, clear, same⟩ := padded_matches found
  obtain ⟨digits, taken, filled, rfl⟩ := matches_digits.mp digitsFound
  exact ⟨digits, blanks, _, taken.passes.trans passes, ⟨filled, taken.all⟩, blank, clear,
    text_sliceTo taken.passes, same⟩

theorem matches_integer {digits blanks : List Char}
    (passes : cursor.Passes (digits ++ blanks) next) (numeral : Numeral digits)
    (blank : Blank blanks) (clear : Clear isWhiteSpace next.rest)
    (clearDigits : Clear isAsciiDigit next.rest) :
    ∃ slice : Slice, slice.text = .ofList digits ∧
      rules.Matches (.rule (named "integer")) cursor (.fields [("int", .atom slice)]) next := by
  obtain ⟨middle, digitsPass, blanksPass⟩ := Cursor.passes_append.mp passes
  have ended : Clear isAsciiDigit middle.rest := by
    rw [blanksPass.rest]
    exact clearDigits.behind_run fun c member =>
      CharClass.not_isAsciiDigit_of_isWhiteSpace (blank c member)
  have found : rules.Matches digitsNode cursor
      (.fields [("int", .atom (cursor.sliceTo middle))]) middle :=
    matches_digits.mpr ⟨digits, ⟨digitsPass, numeral.2, ended⟩, numeral.1, rfl⟩
  refine ⟨cursor.sliceTo middle, text_sliceTo digitsPass, ?_⟩
  rw [matches_rule, body_integer]
  exact matches_padded found blanksPass blank clear

theorem fails_integer (clear : Clear isAsciiDigit cursor.rest) :
    rules.Fails (.rule (named "integer")) cursor := by
  rw [fails_rule, body_integer, fails_sequence_cons, fails_digits]
  exact .inl clear

theorem operator_matches (found : rules.Matches (.rule (named "operator")) cursor output next) :
    ∃ (blanks : List Char) (sign : Slice), cursor.Passes ('+' :: blanks) next ∧ Blank blanks ∧
      Clear isWhiteSpace next.rest ∧ sign.text = "+" ∧ output = .fields [("op", .atom sign)] := by
  rw [matches_rule, body_operator] at found
  obtain ⟨_, middle, blanks, signFound, passes, blank, clear, same⟩ := padded_matches found
  obtain ⟨_, plus, rfl⟩ := signFound.of_capture
  obtain ⟨plusPasses, rfl⟩ := plus.of_literal
  exact ⟨blanks, _, plusPasses.trans passes, blank, clear, text_sliceTo plusPasses, same⟩

theorem matches_operator {blanks : List Char} (passes : cursor.Passes ('+' :: blanks) next)
    (blank : Blank blanks) (clear : Clear isWhiteSpace next.rest) :
    ∃ sign : Slice, sign.text = "+" ∧
      rules.Matches (.rule (named "operator")) cursor (.fields [("op", .atom sign)]) next := by
  obtain ⟨middle, plusPasses, blanksPass⟩ := Cursor.passes_cons.mp passes
  have plus : rules.Matches (.literal "+") cursor (.text (cursor.sliceTo middle)) middle :=
    matches_literal.mpr ⟨plusPasses, rfl⟩
  refine ⟨cursor.sliceTo middle, text_sliceTo plusPasses, ?_⟩
  rw [matches_rule, body_operator]
  exact matches_padded (.capture plus) blanksPass blank clear

theorem sign_matches {sign : String}
    (found : rules.Matches (sequence [literal sign, rule (named "space?")]) cursor output next) :
    ∃ blanks, cursor.Passes (sign.toList ++ blanks) next ∧ Blank blanks ∧
      Clear isWhiteSpace next.rest ∧ output = .text (cursor.sliceTo next) := by
  obtain ⟨_, middle, blanks, signFound, passes, blank, clear, same⟩ := padded_matches found
  obtain ⟨signPasses, rfl⟩ := signFound.of_literal
  exact ⟨blanks, signPasses.trans passes, blank, clear, same⟩

theorem matches_sign {sign : String} {blanks : List Char}
    (passes : cursor.Passes (sign.toList ++ blanks) next) (blank : Blank blanks)
    (clear : Clear isWhiteSpace next.rest) :
    rules.Matches (sequence [literal sign, rule (named "space?")]) cursor
      (.text (cursor.sliceTo next)) next := by
  obtain ⟨middle, signPasses, blanksPass⟩ := Cursor.passes_append.mp passes
  exact matches_padded (.literal signPasses) blanksPass blank clear

theorem padded_string_matches
    (found : rules.Matches (.rule (named "string")) cursor output next) :
    ∃ (quote : Char) (content blanks : List Char) (slice : Slice),
      (quote = '\'' ∨ quote = '"') ∧ quote ∉ content ∧
        cursor.Passes (quote :: (content ++ [quote]) ++ blanks) next ∧ Blank blanks ∧
          Clear isWhiteSpace next.rest ∧ slice.text = .ofList content ∧
            output = .fields [("string", .atom slice)] := by
  rw [matches_rule, body_string] at found
  obtain ⟨_, middle, blanks, quotedFound, passes, blank, clear, same⟩ := padded_matches found
  obtain ⟨quote, content, slice, isQuote, outside, quotedPass, sameText, rfl⟩ :=
    string_matches quotedFound
  exact ⟨quote, content, blanks, slice, isQuote, outside, quotedPass.trans passes, blank, clear,
    sameText, same⟩

theorem matches_padded_string {quote : Char} {content blanks : List Char}
    (isQuote : quote = '\'' ∨ quote = '"') (outside : quote ∉ content)
    (passes : cursor.Passes (quote :: (content ++ [quote]) ++ blanks) next) (blank : Blank blanks)
    (clear : Clear isWhiteSpace next.rest) :
    ∃ slice : Slice, slice.text = .ofList content ∧
      rules.Matches (.rule (named "string")) cursor (.fields [("string", .atom slice)]) next := by
  obtain ⟨middle, quotedPass, blanksPass⟩ := Cursor.passes_append.mp passes
  obtain ⟨slice, sameText, quoted⟩ := matches_string (by decide) isQuote outside quotedPass
  refine ⟨slice, sameText, ?_⟩
  rw [matches_rule, body_string]
  exact matches_padded quoted blanksPass blank clear

theorem fails_padded_string {c : Char} (begins : cursor.rest.head? = some c) (single : c ≠ '\'')
    (double : c ≠ '"') : rules.Fails (.rule (named "string")) cursor := by
  rw [fails_rule, body_string, fails_sequence_cons]
  exact .inl (fails_string (by simpa [begins] using single) (by simpa [begins] using double))

theorem reads_identifier : rules.ReadsSome (.rule (named "identifier")) isIdentifierLetter := by
  refine ReadsSome.rule ?_
  rw [body_identifier, CharClass.accepted_letter]
  exact (readsOne_charClass _ _).repetition

/-- The blanks in front of a comma belong to what stands there. -/
theorem comma_matches (clear : Clear isWhiteSpace cursor.rest)
    (found : rules.Matches (.rule (named "comma")) cursor output next) :
    ∃ blanks, cursor.Passes (',' :: blanks) next ∧ Blank blanks ∧ Clear isWhiteSpace next.rest ∧
      output = .text (cursor.sliceTo next) := by
  rw [matches_rule, body_comma] at found
  obtain ⟨outputs, inTurn, merged⟩ := found.of_sequence
  obtain ⟨_, middle, _, spaces, behind, rfl⟩ := inTurn.of_cons
  obtain ⟨none, nonePass, noneBlank, -, rfl⟩ := passes_spaces spaces
  have empty : none = [] := by
    rw [nonePass.rest] at clear
    exact noneBlank.eq_nil clear
  rw [empty, Cursor.passes_nil] at nonePass
  subst nonePass
  obtain ⟨_, signed, _, signFound, ended, rfl⟩ := behind.of_cons
  obtain ⟨_, stop, _, moreSpaces, nothing, rfl⟩ := ended.of_cons
  obtain ⟨rfl, rfl⟩ := nothing.of_nil
  obtain ⟨blanks, passes, blank, clearBehind, rfl⟩ := passes_spaces moreSpaces
  obtain ⟨signPasses, rfl⟩ := signFound.of_literal
  exact ⟨blanks, signPasses.trans passes, blank, clearBehind, (Except.ok.inj merged).symm⟩

theorem matches_comma {blanks : List Char} (passes : cursor.Passes (',' :: blanks) next)
    (blank : Blank blanks) (clear : Clear isWhiteSpace next.rest) :
    rules.Matches (.rule (named "comma")) cursor (.text (cursor.sliceTo next)) next := by
  obtain ⟨middle, signPasses, blanksPass⟩ := Cursor.passes_cons.mp passes
  have noBlank : Clear isWhiteSpace cursor.rest := by
    rw [signPasses.rest]
    exact Clear.graphic (by decide)
  have none : rules.Matches (.rule (named "space?")) cursor (.text (cursor.sliceTo cursor)) cursor :=
    matches_spaces.mpr ⟨[], ⟨.refl _, by simp, noBlank⟩, rfl⟩
  have sign : rules.Matches (.literal ",") cursor (.text (cursor.sliceTo middle)) middle :=
    matches_literal.mpr ⟨signPasses, rfl⟩
  have spaces := matches_spaces.mpr ⟨blanks, ⟨blanksPass, blank, clear⟩, rfl⟩
  rw [matches_rule, body_comma]
  exact .sequence (.partsCons none (.partsCons sign (.partsCons spaces .partsNil))) rfl

theorem fails_comma (clear : Clear isWhiteSpace cursor.rest) (other : cursor.rest.head? ≠ some ',') :
    rules.Fails (.rule (named "comma")) cursor := by
  have none : rules.Matches (.rule (named "space?")) cursor (.text (cursor.sliceTo cursor)) cursor :=
    matches_spaces.mpr ⟨[], ⟨.refl _, by simp, clear⟩, rfl⟩
  have sign : rules.Fails (.literal ",") cursor := by
    rw [fails_literal]
    intro begins
    obtain ⟨rest, same⟩ := begins
    exact other (same ▸ rfl)
  rw [fails_rule, body_comma]
  exact fails_sequence_cons.mpr (.inr ⟨_, _, none, fails_sequence_cons.mpr (.inl sign)⟩)

theorem ofSequence_sum (start stop : Cursor) (left sign right : Capture) :
    Output.ofSequence start stop
        [.fields [("left", left)], .fields [("op", sign)], .fields [("right", right)]] =
      .ok (.fields [("left", left), ("op", sign), ("right", right)]) := by
  change Output.mergeAll (.fields [("left", left)])
    [.fields [("op", sign)], .fields [("right", right)]] = _
  simp (disch := decide) [Output.mergeAll, Output.merge, Output.mergeFields, Entries.contains,
    Entries.insert_of_gt, Except.map]

theorem ofSequence_call (start stop : Cursor) (name arguments : Capture) (opening closing : Slice) :
    Output.ofSequence start stop
        [.fields [("funcall", name)], .text opening, .fields [("arglist", arguments)],
          .text closing] =
      .ok (.fields [("arglist", arguments), ("funcall", name)]) := by
  change Output.mergeAll (.fields [("funcall", name)]) [.fields [("arglist", arguments)]] = _
  simp (disch := decide) [Output.mergeAll, Output.merge, Output.mergeFields, Entries.contains,
    Entries.insert_of_lt, Except.map]

/-! Every match of an expression is spelled as a phrase. -/

theorem consumes_argument :
    rules.Consumes (sequence [.rule (named "comma"), .rule (named "expression")]) :=
  accepted.consumes rfl

def Found (cursor : Cursor) (phrase : Phrase) (output : Output) (next : Cursor) : Prop :=
  ∃ text entries, cursor.Passes text next ∧ Spells phrase text ∧ Clear isWhiteSpace next.rest ∧
    output = .fields entries ∧ Pictures phrase (Output.fields entries).toCapture

theorem Found.of_integer (found : rules.Matches (.rule (named "integer")) cursor output next) :
    ∃ phrase, Found cursor phrase output next := by
  obtain ⟨digits, blanks, slice, passes, numeral, blank, clear, sameText, rfl⟩ :=
    integer_matches found
  exact ⟨.int digits, _, _, passes, .int numeral blank, clear, rfl, .int numeral sameText⟩

theorem Found.of_string (found : rules.Matches (.rule (named "string")) cursor output next) :
    ∃ phrase, Found cursor phrase output next := by
  obtain ⟨quote, content, blanks, slice, isQuote, outside, passes, blank, clear, sameText, rfl⟩ :=
    padded_string_matches found
  exact ⟨.str content, _, _, passes, .str isQuote outside blank, clear, rfl, .str sameText⟩

section

variable {bound : Nat}
  (below : ∀ {start yielded stop}, start.rest.length < bound →
    rules.Matches (.rule (named "expression")) start yielded stop →
      ∃ phrase, Found start phrase yielded stop)

include below

theorem Found.of_sum (within : cursor.rest.length ≤ bound)
    (found : rules.Matches (.rule (named "sum")) cursor output next) :
    ∃ phrase, Found cursor phrase output next := by
  rw [matches_rule, body_sum] at found
  obtain ⟨outputs, inTurn, merged⟩ := found.of_sequence
  obtain ⟨_, signed, _, leftFound, behindLeft, rfl⟩ := inTurn.of_cons
  obtain ⟨_, start, _, signFound, behindSign, rfl⟩ := behindLeft.of_cons
  obtain ⟨_, stop, _, rightFound, ended, rfl⟩ := behindSign.of_cons
  obtain ⟨rfl, rfl⟩ := ended.of_nil
  obtain ⟨_, integerFound, rfl⟩ := leftFound.of_capture
  obtain ⟨digits, blanks, left, leftPasses, numeral, blank, -, sameLeft, rfl⟩ :=
    integer_matches integerFound
  obtain ⟨more, sign, signPasses, moreBlank, -, plus, rfl⟩ := operator_matches signFound
  obtain ⟨_, inside, rfl⟩ := rightFound.of_capture
  have shorter : start.rest.length < bound := by
    have length := (leftPasses.trans signPasses).length_rest
    simp only [List.length_append, List.length_cons] at length
    omega
  obtain ⟨right, text, entries, rightPasses, spells, clear, rfl, pictures⟩ := below shorter inside
  cases (ofSequence_sum _ _ _ _ _).symm.trans merged
  exact ⟨.sum digits right, _, _, (leftPasses.trans signPasses).trans rightPasses,
    .sum numeral blank moreBlank spells, clear, rfl, .sum numeral sameLeft plus pictures⟩

theorem rounds_spelled {outputs : List Output}
    (rounds : rules.Rounds (sequence [.rule (named "comma"), .rule (named "expression")]) cursor
      outputs next)
    (within : cursor.rest.length ≤ bound) (clear : Clear isWhiteSpace cursor.rest) :
    ∃ phrases text, cursor.Passes text next ∧ SpellsMore phrases text ∧
      Clear isWhiteSpace next.rest ∧
        PicturesAll phrases (outputs.flatMap Output.roundItems) := by
  induction rounds with
  | nil => exact ⟨[], [], .refl _, .nil, clear, .nil⟩
  | @cons cursor yielded middle outputs next found _ ih =>
      obtain ⟨_, inTurn, merged⟩ := found.of_sequence
      obtain ⟨_, start, _, commaFound, behindComma, rfl⟩ := inTurn.of_cons
      obtain ⟨_, stop, _, inside, ended, rfl⟩ := behindComma.of_cons
      obtain ⟨rfl, rfl⟩ := ended.of_nil
      obtain ⟨blanks, commaPasses, blank, -, rfl⟩ := comma_matches clear commaFound
      have shorter : start.rest.length < bound := by
        have length := commaPasses.length_rest
        rw [List.length_cons] at length
        omega
      obtain ⟨phrase, text, entries, passes, spells, clearBehind, rfl, pictures⟩ :=
        below shorter inside
      cases merged
      have behind : middle.rest.length ≤ bound := by
        have length := passes.length_rest
        omega
      obtain ⟨phrases, more, morePasses, spellsMore, clearNext, picturesMore⟩ :=
        ih behind clearBehind
      exact ⟨phrase :: phrases, _, (commaPasses.trans passes).trans morePasses,
        .cons blank spells spellsMore, clearNext, .cons pictures picturesMore⟩

theorem arglist_spelled (within : cursor.rest.length < bound)
    (found : rules.Matches (.rule (named "arglist")) cursor output next) :
    ∃ phrases text captures, cursor.Passes text next ∧ SpellsAll phrases text ∧
      output = .list captures ∧ PicturesAll phrases captures := by
  rw [matches_rule, body_arglist] at found
  obtain ⟨outputs, inTurn, merged⟩ := found.of_sequence
  obtain ⟨_, middle, _, firstFound, behind, rfl⟩ := inTurn.of_cons
  obtain ⟨_, stop, _, restFound, ended, rfl⟩ := behind.of_cons
  obtain ⟨rfl, rfl⟩ := ended.of_nil
  obtain ⟨phrase, text, entries, passes, spells, clear, rfl, pictures⟩ := below within firstFound
  obtain ⟨rounds, roundsFound, -, -, rfl⟩ := (matches_repetition consumes_argument).mp restFound
  have shorter : middle.rest.length ≤ bound := by
    have length := passes.length_rest
    omega
  obtain ⟨phrases, more, morePasses, spellsMore, -, picturesMore⟩ :=
    rounds_spelled below roundsFound shorter clear
  cases merged
  exact ⟨phrase :: phrases, _, _, passes.trans morePasses, .cons spells spellsMore, rfl,
    .cons pictures picturesMore⟩

theorem arguments_spelled (within : cursor.rest.length < bound)
    (found : rules.Matches (repetition (.rule (named "arglist")) 0 (some 1) true) cursor output
      next) :
    ∃ phrases text captures, cursor.Passes text next ∧ SpellsAll phrases text ∧
      output = .list captures ∧ PicturesAll phrases captures := by
  rcases matches_maybe.mp found with ⟨yielded, inside, rfl⟩ | ⟨-, rfl, rfl⟩
  · obtain ⟨phrases, text, captures, passes, spells, rfl, pictures⟩ :=
      arglist_spelled below within inside
    refine ⟨phrases, text, captures, passes, spells, ?_, pictures⟩
    rw [Output.ofRounds_structured, List.flatMap_singleton, Output.roundItems]
  · exact ⟨[], [], [], .refl _, .nil, rfl, .nil⟩

theorem Found.of_call (within : cursor.rest.length ≤ bound)
    (found : rules.Matches (.rule (named "funcall")) cursor output next) :
    ∃ phrase, Found cursor phrase output next := by
  rw [matches_rule, body_funcall] at found
  obtain ⟨outputs, inTurn, merged⟩ := found.of_sequence
  obtain ⟨_, opened, _, nameFound, behindName, rfl⟩ := inTurn.of_cons
  obtain ⟨_, start, _, openFound, behindOpen, rfl⟩ := behindName.of_cons
  obtain ⟨_, closing, _, listFound, behindList, rfl⟩ := behindOpen.of_cons
  obtain ⟨_, stop, _, closeFound, ended, rfl⟩ := behindList.of_cons
  obtain ⟨rfl, rfl⟩ := ended.of_nil
  obtain ⟨_, identifierFound, rfl⟩ := nameFound.of_capture
  obtain ⟨name, nameTaken, filled, rfl⟩ := reads_identifier.matches_iff.mp identifierFound
  rw [matches_rule, body_lparen] at openFound
  rw [matches_rule, body_rparen] at closeFound
  obtain ⟨blanks, openPasses, blank, -, rfl⟩ := sign_matches openFound
  obtain ⟨more, closePasses, moreBlank, clear, rfl⟩ := sign_matches closeFound
  obtain ⟨_, maybeFound, rfl⟩ := listFound.of_capture
  cases (ofSequence_call _ _ _ _ _ _).symm.trans merged
  have shorter : start.rest.length < bound := by
    have length := (nameTaken.passes.trans openPasses).length_rest
    have some := List.length_pos_iff.mpr filled
    simp only [List.length_append] at length
    omega
  obtain ⟨arguments, text, captures, passes, spells, rfl, pictures⟩ :=
    arguments_spelled below shorter maybeFound
  refine ⟨.call name arguments, _, _,
    ((nameTaken.passes.trans openPasses).trans passes).trans closePasses,
    .call ⟨filled, nameTaken.all⟩ blank spells moreBlank, clear, rfl, ?_⟩
  exact .call (text_sliceTo nameTaken.passes) pictures

end

theorem expression_spelled (found : rules.Matches (.rule (named "expression")) cursor output next) :
    ∃ phrase, Found cursor phrase output next := by
  generalize size_eq : cursor.rest.length = size
  induction size using Nat.strong_induction_on generalizing cursor output next with
  | h size ih =>
      have below : ∀ {start yielded stop}, start.rest.length < size →
          rules.Matches (.rule (named "expression")) start yielded stop →
            ∃ phrase, Found start phrase yielded stop :=
        fun less inside => ih _ less inside rfl
      rw [matches_rule, body_expression] at found
      obtain ⟨branch, member, inside⟩ := found.of_choice
      simp only [List.mem_cons, List.not_mem_nil, or_false] at member
      rcases member with rfl | rfl | rfl | rfl
      · exact Found.of_call below size_eq.le inside
      · exact Found.of_sum below size_eq.le inside
      · exact Found.of_string inside
      · exact Found.of_integer inside

/-! Every spelling of a phrase is matched: where it begins, the other alternatives fail. -/

theorem Ended.clear {accepts : Char → Bool} {rest : List Char} (ended : Ended rest)
    (comma : accepts ',' = false) (closing : accepts ')' = false) : Clear accepts rest := by
  intro c first
  rcases ended c first with rfl | rfl
  · exact comma
  · exact closing

theorem Ended.clear_space {rest : List Char} (ended : Ended rest) : Clear isWhiteSpace rest :=
  ended.clear (CharClass.not_isWhiteSpace_of_isGraphic (by decide))
    (CharClass.not_isWhiteSpace_of_isGraphic (by decide))

theorem ended_of_closing {rest : List Char} (closing : rest.head? = some ')') : Ended rest := by
  intro c first
  rw [closing] at first
  exact .inr (Option.some.inj first).symm

theorem Spells.clear {phrase : Phrase} {text : List Char} (spells : Spells phrase text)
    (rest : List Char) : Clear isWhiteSpace (text ++ rest) := by
  cases spells with
  | int numeral | sum numeral =>
      simp only [List.append_assoc]
      exact Clear.of_run numeral.1 fun c member =>
        CharClass.not_isWhiteSpace_of_isAsciiDigit (numeral.2 c member)
  | str isQuote =>
      rcases isQuote with rfl | rfl <;> exact Clear.graphic (by decide)
  | call identifier =>
      simp only [List.append_assoc]
      exact Clear.of_run identifier.1 fun c member =>
        CharClass.not_isWhiteSpace_of_isIdentifierLetter (identifier.2 c member)

theorem SpellsMore.ended {phrases : List Phrase} {text rest : List Char}
    (spells : SpellsMore phrases text) (closing : rest.head? = some ')') : Ended (text ++ rest) := by
  cases spells with
  | nil => exact ended_of_closing closing
  | cons =>
      intro c first
      exact .inl (Option.some.inj first).symm

theorem SpellsAll.clear {phrases : List Phrase} {text rest : List Char}
    (spells : SpellsAll phrases text) (closing : rest.head? = some ')') :
    Clear isWhiteSpace (text ++ rest) := by
  cases spells with
  | nil => exact (ended_of_closing closing).clear_space
  | cons first =>
      rw [List.append_assoc]
      exact first.clear _

theorem fails_call (clear : Clear isIdentifierLetter cursor.rest) :
    rules.Fails (.rule (named "funcall")) cursor := by
  rw [fails_rule, body_funcall, fails_sequence_cons, fails_capture, reads_identifier.fails_iff]
  exact .inl clear

theorem fails_sum_of_clear (clear : Clear isAsciiDigit cursor.rest) :
    rules.Fails (.rule (named "sum")) cursor := by
  rw [fails_rule, body_sum, fails_sequence_cons, fails_capture]
  exact .inl (fails_integer clear)

/-- Where nothing that begins a phrase comes next, no expression does. -/
theorem fails_expression (closing : cursor.rest.head? = some ')') :
    rules.Fails (.rule (named "expression")) cursor := by
  have ended := ended_of_closing closing
  have digits : Clear isAsciiDigit cursor.rest := ended.clear (by decide) (by decide)
  rw [fails_rule, body_expression, fails_choice]
  simp only [List.forall_mem_cons, List.not_mem_nil, false_imp_iff, implies_true, and_true]
  exact ⟨fails_call (ended.clear (by decide) (by decide)), fails_sum_of_clear digits,
    fails_padded_string closing (by decide) (by decide), fails_integer digits⟩

theorem matches_call (found : rules.Matches (.rule (named "funcall")) cursor output next) :
    rules.Matches (.rule (named "expression")) cursor output next := by
  rw [matches_rule, body_expression, matches_choice_cons]
  exact .inl found

theorem matches_sum (noCall : rules.Fails (.rule (named "funcall")) cursor)
    (found : rules.Matches (.rule (named "sum")) cursor output next) :
    rules.Matches (.rule (named "expression")) cursor output next := by
  rw [matches_rule, body_expression]
  exact matches_choice_cons.mpr (.inr ⟨noCall, matches_choice_cons.mpr (.inl found)⟩)

theorem clear_letters {digits rest : List Char} (numeral : Numeral digits) :
    Clear isIdentifierLetter (digits ++ rest) := by
  intro c first
  obtain ⟨d, begins, isDigit⟩ := numeral.head
  rw [begins] at first
  exact Option.some.inj first ▸ CharClass.not_isIdentifierLetter_of_isAsciiDigit isDigit

theorem matches_expression_int {digits blanks : List Char}
    (passes : cursor.Passes (digits ++ blanks) next) (numeral : Numeral digits)
    (blank : Blank blanks) (ended : Ended next.rest) :
    ∃ entries, rules.Matches (.rule (named "expression")) cursor (.fields entries) next ∧
      Pictures (.int digits) (Output.fields entries).toCapture := by
  obtain ⟨slice, sameText, found⟩ := matches_integer passes numeral blank
    ended.clear_space (ended.clear (by decide) (by decide))
  have begins : cursor.rest = digits ++ (blanks ++ next.rest) := by
    rw [passes.rest, List.append_assoc]
  obtain ⟨c, first, isDigit⟩ := numeral.head
  rw [← begins] at first
  have noCall := fails_call (begins ▸ clear_letters numeral)
  have noSum : rules.Fails (.rule (named "sum")) cursor := by
    have noSign : rules.Fails (.rule (named "operator")) next := by
      rw [fails_rule, body_operator, fails_sequence_cons, fails_capture, fails_literal]
      left
      rintro ⟨rest, same⟩
      have plus := ended '+' (by rw [← same]; rfl)
      simp at plus
    rw [fails_rule, body_sum, fails_sequence_cons]
    exact .inr ⟨_, next, .capture found, fails_sequence_cons.mpr (.inl noSign)⟩
  have noString : rules.Fails (.rule (named "string")) cursor := by
    refine fails_padded_string first ?_ ?_
    all_goals
      rintro rfl
      simp [CharClass.isAsciiDigit, CharClass.within] at isDigit
  refine ⟨[("int", .atom slice)], ?_, .int numeral sameText⟩
  rw [matches_rule, body_expression]
  exact matches_choice_cons.mpr (.inr ⟨noCall, matches_choice_cons.mpr (.inr ⟨noSum,
    matches_choice_cons.mpr (.inr ⟨noString, matches_choice_cons.mpr (.inl found)⟩)⟩)⟩)

theorem matches_expression_str {quote : Char} {content blanks : List Char}
    (isQuote : quote = '\'' ∨ quote = '"') (outside : quote ∉ content)
    (passes : cursor.Passes (quote :: (content ++ [quote]) ++ blanks) next)
    (blank : Blank blanks) (ended : Ended next.rest) :
    ∃ entries, rules.Matches (.rule (named "expression")) cursor (.fields entries) next ∧
      Pictures (.str content) (Output.fields entries).toCapture := by
  obtain ⟨slice, sameText, found⟩ := matches_padded_string isQuote outside passes blank
    ended.clear_space
  have first : cursor.rest.head? = some quote := by
    rw [passes.rest]
    rfl
  have noCall : rules.Fails (.rule (named "funcall")) cursor := by
    refine fails_call fun c begins => ?_
    rw [first] at begins
    cases begins
    rcases isQuote with rfl | rfl <;> decide
  have noSum : rules.Fails (.rule (named "sum")) cursor := by
    refine fails_sum_of_clear fun c begins => ?_
    rw [first] at begins
    cases begins
    rcases isQuote with rfl | rfl <;> decide
  refine ⟨[("string", .atom slice)], ?_, .str sameText⟩
  rw [matches_rule, body_expression]
  exact matches_choice_cons.mpr (.inr ⟨noCall, matches_choice_cons.mpr (.inr ⟨noSum,
    matches_choice_cons.mpr (.inl found)⟩)⟩)

theorem matches_expression_sum {digits blanks more : List Char} {start : Cursor} {right : Phrase}
    {entries : List (String × Capture)} (numeral : Numeral digits) (blank : Blank blanks)
    (leftPasses : cursor.Passes (digits ++ blanks) middle) (moreBlank : Blank more)
    (signPasses : middle.Passes ('+' :: more) start) (clear : Clear isWhiteSpace start.rest)
    (found : rules.Matches (.rule (named "expression")) start (.fields entries) next)
    (pictures : Pictures right (Output.fields entries).toCapture) :
    ∃ entries, rules.Matches (.rule (named "expression")) cursor (.fields entries) next ∧
      Pictures (.sum digits right) (Output.fields entries).toCapture := by
  have plusFirst : middle.rest.head? = some '+' := by
    rw [signPasses.rest]
    rfl
  have clearBehind {accepts : Char → Bool} (refused : accepts '+' = false) :
      Clear accepts middle.rest := by
    intro c first
    rw [plusFirst] at first
    exact Option.some.inj first ▸ refused
  obtain ⟨left, sameLeft, leftFound⟩ := matches_integer leftPasses numeral blank
    (clearBehind (CharClass.not_isWhiteSpace_of_isGraphic (by decide))) (clearBehind (by decide))
  obtain ⟨sign, plus, signFound⟩ := matches_operator signPasses moreBlank clear
  have noCall : rules.Fails (.rule (named "funcall")) cursor := by
    refine fails_call ?_
    rw [leftPasses.rest, List.append_assoc]
    exact clear_letters numeral
  have sum : rules.Matches (.rule (named "sum")) cursor
      (.fields [("left", .tagged "int" (.atom left)), ("op", .atom sign),
        ("right", (Output.fields entries).toCapture)]) next := by
    rw [matches_rule, body_sum]
    exact .sequence
      (.partsCons (.capture leftFound)
        (.partsCons signFound (.partsCons (.capture found) .partsNil)))
      (ofSequence_sum ..)
  exact ⟨_, matches_sum noCall sum, .sum numeral sameLeft plus pictures⟩

theorem matches_expression_call {name blanks more : List Char} {opened start closing : Cursor}
    {arguments : List Phrase} {captures : List Capture} (identifier : Identifier name)
    (namePasses : cursor.Passes name opened) (blank : Blank blanks)
    (openPasses : opened.Passes ('(' :: blanks) start) (clear : Clear isWhiteSpace start.rest)
    (found : rules.Matches (repetition (.rule (named "arglist")) 0 (some 1) true) start
      (.list captures) closing)
    (pictures : PicturesAll arguments captures) (moreBlank : Blank more)
    (closePasses : closing.Passes (')' :: more) next) (ended : Ended next.rest) :
    ∃ entries, rules.Matches (.rule (named "expression")) cursor (.fields entries) next ∧
      Pictures (.call name arguments) (Output.fields entries).toCapture := by
  have clearName : Clear isIdentifierLetter opened.rest := by
    rw [openPasses.rest]
    exact Clear.cons (by decide)
  have nameTaken : cursor.Takes isIdentifierLetter name opened :=
    ⟨namePasses, identifier.2, clearName⟩
  have nameFound := reads_identifier.matches_iff.mpr ⟨name, nameTaken, identifier.1, rfl⟩
  have openFound : rules.Matches (.rule (named "lparen")) opened
      (.text (opened.sliceTo start)) start := by
    rw [matches_rule, body_lparen]
    exact matches_sign openPasses blank clear
  have closeFound : rules.Matches (.rule (named "rparen")) closing
      (.text (closing.sliceTo next)) next := by
    rw [matches_rule, body_rparen]
    exact matches_sign closePasses moreBlank
      ended.clear_space
  have call : rules.Matches (.rule (named "funcall")) cursor
      (.fields [("arglist", .list captures), ("funcall", .atom (cursor.sliceTo opened))]) next := by
    rw [matches_rule, body_funcall]
    exact .sequence
      (.partsCons (.capture nameFound)
        (.partsCons openFound
          (.partsCons (.capture found) (.partsCons closeFound .partsNil))))
      (ofSequence_call ..)
  exact ⟨_, matches_call call, .call (text_sliceTo namePasses) pictures⟩

mutual

theorem Spells.matches {phrase : Phrase} {text : List Char} (spells : Spells phrase text)
    {cursor next : Cursor} (passes : cursor.Passes text next) (ended : Ended next.rest) :
    ∃ entries, rules.Matches (.rule (named "expression")) cursor (.fields entries) next ∧
      Pictures phrase (Output.fields entries).toCapture := by
  cases spells with
  | int numeral blank => exact matches_expression_int passes numeral blank ended
  | str isQuote outside blank => exact matches_expression_str isQuote outside passes blank ended
  | sum numeral blank moreBlank spellsRight =>
      obtain ⟨start, front, rightPasses⟩ := Cursor.passes_append.mp passes
      obtain ⟨middle, leftPasses, signPasses⟩ := Cursor.passes_append.mp front
      obtain ⟨entries, found, pictures⟩ := spellsRight.matches rightPasses ended
      have clear := rightPasses.rest ▸ spellsRight.clear next.rest
      exact matches_expression_sum numeral blank leftPasses moreBlank signPasses clear found pictures
  | call identifier blank spellsAll moreBlank =>
      obtain ⟨closing, front, closePasses⟩ := Cursor.passes_append.mp passes
      obtain ⟨start, nameOpen, argumentsPass⟩ := Cursor.passes_append.mp front
      obtain ⟨opened, namePasses, openPasses⟩ := Cursor.passes_append.mp nameOpen
      have closes : closing.rest.head? = some ')' := by
        rw [closePasses.rest]
        rfl
      obtain ⟨captures, found, pictures⟩ := spellsAll.matches argumentsPass closes
      have clear := argumentsPass.rest ▸ spellsAll.clear closes
      exact matches_expression_call identifier namePasses blank openPasses clear found pictures
        moreBlank closePasses ended

theorem SpellsAll.matches {phrases : List Phrase} {text : List Char}
    (spells : SpellsAll phrases text) {cursor next : Cursor} (passes : cursor.Passes text next)
    (closes : next.rest.head? = some ')') :
    ∃ captures, rules.Matches (repetition (.rule (named "arglist")) 0 (some 1) true) cursor
      (.list captures) next ∧ PicturesAll phrases captures := by
  cases spells with
  | nil =>
      cases Cursor.passes_nil.mp passes
      have none : rules.Fails (.rule (named "arglist")) cursor := by
        rw [fails_rule, body_arglist, fails_sequence_cons]
        exact .inl (fails_expression closes)
      exact ⟨[], matches_maybe.mpr (.inr ⟨none, rfl, rfl⟩), .nil⟩
  | @cons phrase text phrases more spellsFirst spellsMore =>
      obtain ⟨middle, firstPasses, morePasses⟩ := Cursor.passes_append.mp passes
      have ended : Ended middle.rest := morePasses.rest ▸ spellsMore.ended closes
      obtain ⟨entries, firstFound, pictures⟩ := spellsFirst.matches firstPasses ended
      obtain ⟨outputs, rounds, picturesMore⟩ := spellsMore.rounds morePasses closes
      have noMore : rules.Fails (sequence [.rule (named "comma"), .rule (named "expression")])
          next := by
        have clear : Clear isWhiteSpace next.rest :=
          (ended_of_closing closes).clear_space
        exact fails_sequence_cons.mpr (.inl (fails_comma clear (by simp [closes])))
      have moreFound : rules.Matches
          (repetition (sequence [.rule (named "comma"), .rule (named "expression")]) 0 none true)
          middle (.list (outputs.flatMap Output.roundItems)) next :=
        (matches_repetition consumes_argument).mpr ⟨outputs, rounds, noMore, Nat.zero_le _, rfl⟩
      have found : rules.Matches (.rule (named "arglist")) cursor
          (.list ((Output.fields entries).toCapture :: outputs.flatMap Output.roundItems)) next := by
        rw [matches_rule, body_arglist]
        exact .sequence (.partsCons firstFound (.partsCons moreFound .partsNil)) rfl
      refine ⟨_, matches_maybe.mpr (.inl ⟨_, found, ?_⟩), .cons pictures picturesMore⟩
      rw [Output.ofRounds_structured, List.flatMap_singleton, Output.roundItems]

theorem SpellsMore.rounds {phrases : List Phrase} {text : List Char}
    (spells : SpellsMore phrases text) {cursor next : Cursor} (passes : cursor.Passes text next)
    (closes : next.rest.head? = some ')') :
    ∃ outputs, rules.Rounds (sequence [.rule (named "comma"), .rule (named "expression")]) cursor
      outputs next ∧ PicturesAll phrases (outputs.flatMap Output.roundItems) := by
  cases spells with
  | nil =>
      cases Cursor.passes_nil.mp passes
      exact ⟨[], .nil, .nil⟩
  | cons blank spellsNext spellsMore =>
      obtain ⟨middle, front, morePasses⟩ := Cursor.passes_append.mp passes
      obtain ⟨start, commaPasses, nextPasses⟩ := Cursor.passes_append.mp front
      have ended : Ended middle.rest := morePasses.rest ▸ spellsMore.ended closes
      have clear := nextPasses.rest ▸ spellsNext.clear middle.rest
      obtain ⟨entries, found, pictures⟩ := spellsNext.matches nextPasses ended
      obtain ⟨outputs, rounds, picturesMore⟩ := spellsMore.rounds morePasses closes
      have comma := matches_comma commaPasses blank clear
      have round : rules.Matches (sequence [.rule (named "comma"), .rule (named "expression")])
          cursor (.fields entries) middle :=
        .sequence (.partsCons comma (.partsCons found .partsNil)) rfl
      exact ⟨_, .cons round rounds, .cons pictures picturesMore⟩

end

/-- The grammar of expressions matches a whole text exactly if that spells a phrase. -/
theorem spells_iff {text : String} {phrase : Phrase} :
    Spells phrase text.toList ↔ ∃ output stop,
      rules.Matches (.rule (named "expression")) (.start text) output stop ∧ stop.rest = [] ∧
        Pictures phrase output.toCapture := by
  constructor
  · intro spells
    have passes : (Cursor.start text).Passes text.toList ⟨text.utf8ByteSize, []⟩ := by
      refine ⟨(List.append_nil _).symm, ?_⟩
      rw [String.utf8Len_toList]
      exact (Nat.zero_add _).symm
    obtain ⟨entries, found, pictures⟩ := spells.matches passes (by simp [Ended])
    exact ⟨_, _, found, rfl, pictures⟩
  · rintro ⟨output, stop, found, ended, pictures⟩
    obtain ⟨other, passed, entries, passes, spells, -, rfl, picturesOther⟩ :=
      expression_spelled found
    obtain ⟨rfl, -⟩ := passes.of_ended ended
    exact picturesOther.unique pictures ▸ spells

end PegText.Language.Expression
