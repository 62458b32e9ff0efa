import PegText.Proofs.Language.HashObject
import PegText.Proofs.Language.Values

/-!
Hash objects are matched exactly as they are spelled. Blanks may be taken by several rules next to
each other; each takes all there are, so that the next one finds none.
-/

namespace PegText.Language.Arguments

open CharClass (isAsciiDigit isHashKeyChar)
open Language.Directive (Literal)
open Node RuleTable

variable {cursor next : Cursor} {output : Output}

theorem matches_spaces :
    rules.Matches (.rule (named "spaces?")) cursor output next ↔
      ∃ blanks, cursor.Takes isWhiteSpace blanks next ∧ output = .text (cursor.sliceTo next) := by
  have spaces : rules.ReadsSome (.rule (named "spaces")) isWhiteSpace := by
    refine ReadsSome.rule ?_
    rw [body_spaces, CharClass.accepted_space]
    exact (readsOne_charClass _ _).repetition
  rw [matches_rule, body_maybe_spaces]
  exact spaces.matches_maybe

theorem matches_blanks {blanks : List Char} (passes : cursor.Passes blanks next)
    (blank : Blank blanks) (clear : Clear isWhiteSpace next.rest) :
    rules.Matches (.rule (named "spaces?")) cursor (.text (cursor.sliceTo next)) next :=
  matches_spaces.mpr ⟨blanks, ⟨passes, blank, clear⟩, rfl⟩

theorem matches_no_blanks (clear : Clear isWhiteSpace cursor.rest) :
    rules.Matches (.rule (named "spaces?")) cursor (.text (cursor.sliceTo cursor)) cursor :=
  matches_blanks (.refl _) .nil clear

theorem key_spelled (found : rules.Matches (.rule (named "key")) cursor output next) :
    ∃ before key behind slice, cursor.Passes (before ++ (key ++ (':' :: behind))) next ∧
      Blank before ∧ Key key ∧ Blank behind ∧ slice.text = .ofList key ∧
        output = .fields [("key", .atom slice)] := by
  rw [matches_rule, body_key] at found
  obtain ⟨outputs, inTurn, merged⟩ := found.of_sequence
  obtain ⟨_, start, _, spaces, behindSpaces, rfl⟩ := inTurn.of_cons
  obtain ⟨_, stop, _, keyFound, behindKey, rfl⟩ := behindSpaces.of_cons
  obtain ⟨_, signed, _, sign, behindSign, rfl⟩ := behindKey.of_cons
  obtain ⟨_, last, _, moreSpaces, ended, rfl⟩ := behindSign.of_cons
  obtain ⟨rfl, rfl⟩ := ended.of_nil
  rw [CharClass.accepted_hashKey] at keyFound
  obtain ⟨before, beforeTaken, rfl⟩ := matches_spaces.mp spaces
  obtain ⟨key, keyTaken, filled, rfl⟩ :=
    (readsOne_charClass _ _).repetition.matches_capture.mp keyFound
  obtain ⟨signPasses, rfl⟩ := sign.of_literal
  obtain ⟨behind, behindTaken, rfl⟩ := matches_spaces.mp moreSpaces
  cases merged
  exact ⟨before, key, behind, _,
    beforeTaken.passes.trans (keyTaken.passes.trans (signPasses.trans behindTaken.passes)),
    beforeTaken.all, ⟨filled, keyTaken.all⟩, behindTaken.all, text_sliceTo keyTaken.passes, rfl⟩

theorem Key.clear {key : List Char} (isKey : Key key) (rest : List Char) :
    Clear isWhiteSpace (key ++ rest) :=
  Clear.of_run isKey.1 fun c member =>
    CharClass.not_isWhiteSpace_of_isHashKeyChar (isKey.2 c member)

theorem Pair.Spells.clear {pair : Pair} {text : List Char} (spells : pair.Spells text)
    (rest : List Char) : Clear isWhiteSpace (text ++ rest) := by
  cases spells with
  | mk isKey =>
      rw [List.append_assoc, List.append_assoc]
      exact isKey.clear _

theorem matches_key {key behind : List Char} (isKey : Key key) (blank : Blank behind)
    (passes : cursor.Passes (key ++ (':' :: behind)) next) (clear : Clear isWhiteSpace next.rest) :
    ∃ slice : Slice, slice.text = .ofList key ∧
      rules.Matches (.rule (named "key")) cursor (.fields [("key", .atom slice)]) next := by
  obtain ⟨stop, keyPasses, behindKey⟩ := Cursor.passes_append.mp passes
  obtain ⟨signed, signPasses, behindPasses⟩ := Cursor.passes_cons.mp behindKey
  have noSpaces := matches_no_blanks (keyPasses.rest ▸ isKey.clear stop.rest)
  have keyEnds : Clear isHashKeyChar stop.rest :=
    signPasses.rest ▸ Clear.cons (by simp [isHashKeyChar])
  have keyFound : rules.Matches
      (capture "key" (repetition (charClass "[^\\s:]" isHashKeyChar) 1 none false)) cursor
      (.fields [("key", .atom (cursor.sliceTo stop))]) stop :=
    (readsOne_charClass _ _).repetition.matches_capture.mpr
      ⟨key, ⟨keyPasses, isKey.2, keyEnds⟩, isKey.1, rfl⟩
  have sign : rules.Matches (.literal ":") stop (.text (stop.sliceTo signed)) signed :=
    .literal signPasses
  refine ⟨cursor.sliceTo stop, text_sliceTo keyPasses, ?_⟩
  rw [matches_rule, body_key, CharClass.accepted_hashKey]
  exact .sequence
    (.partsCons noSpaces
      (.partsCons keyFound
        (.partsCons sign (.partsCons (matches_blanks behindPasses blank clear) .partsNil))))
    rfl

theorem values : ValueRules rules (named "string") (named "integer") (named "value") :=
  ⟨⟨'"', '\'', by decide, fun _ => or_comm, body_string⟩, body_integer, body_value⟩

theorem ofSequence_pair (start stop : Cursor) (key value : Capture) :
    Output.ofSequence start stop [.fields [("key", key)], .fields [("val", value)]] =
      .ok (.fields [("key", key), ("val", value)]) := by
  change Output.mergeAll (.fields [("key", key)]) [.fields [("val", value)]] = _
  simp (disch := decide) [Output.mergeAll, Output.merge, Output.mergeFields, Entries.contains,
    Entries.insert_of_gt, Except.map]

theorem pair_spelled (found : rules.Matches (.rule (named "key_value")) cursor output next) :
    ∃ pair before text behind entries, cursor.Passes (before ++ text ++ behind) next ∧
      Blank before ∧ Pair.Spells pair text ∧ Blank behind ∧ output = .fields entries ∧
        pair.Pictures (Output.fields entries).toCapture := by
  rw [matches_rule, body_key_value] at found
  obtain ⟨_, inTurn, merged⟩ := found.of_sequence
  obtain ⟨_, stop, _, captured, behindPair, rfl⟩ := inTurn.of_cons
  obtain ⟨_, last, _, spaces, ended, rfl⟩ := behindPair.of_cons
  obtain ⟨rfl, rfl⟩ := ended.of_nil
  obtain ⟨_, inside, rfl⟩ := captured.of_capture
  obtain ⟨_, insideTurn, insideMerged⟩ := inside.of_sequence
  obtain ⟨_, start, _, keyFound, behindKey, rfl⟩ := insideTurn.of_cons
  obtain ⟨_, _, _, valueFound, nothing, rfl⟩ := behindKey.of_cons
  obtain ⟨rfl, rfl⟩ := nothing.of_nil
  obtain ⟨before, key, blanks, slice, keyPasses, beforeBlank, isKey, blank, sameKey, rfl⟩ :=
    key_spelled keyFound
  obtain ⟨_, valueMatches, rfl⟩ := valueFound.of_capture
  obtain ⟨value, text, entries, valuePasses, spells, rfl, pictures⟩ := values.of_value valueMatches
  obtain ⟨behind, behindTaken, rfl⟩ := matches_spaces.mp spaces
  cases (ofSequence_pair _ _ _ _).symm.trans insideMerged
  cases merged
  refine ⟨⟨key, value⟩, before, key ++ (':' :: blanks) ++ text, behind, _, ?_, beforeBlank,
    .mk isKey blank spells, behindTaken.all, rfl, .mk sameKey pictures⟩
  have passes := (keyPasses.trans valuePasses).trans behindTaken.passes
  simpa only [List.append_assoc] using passes

def Follows (rest : List Char) : Prop := ∃ c, rest.head? = some c ∧ (c = ',' ∨ c = '\x7d')

theorem Follows.clear {accepts : Char → Bool} {rest : List Char} (follows : Follows rest)
    (comma : accepts ',' = false) (closing : accepts '\x7d' = false) : Clear accepts rest := by
  obtain ⟨sign, first, isSign⟩ := follows
  intro c begins
  cases first.symm.trans begins
  rcases isSign with rfl | rfl
  · exact comma
  · exact closing

theorem Follows.clear_space {rest : List Char} (follows : Follows rest) :
    Clear isWhiteSpace rest :=
  follows.clear (CharClass.not_isWhiteSpace_of_isGraphic (by decide))
    (CharClass.not_isWhiteSpace_of_isGraphic (by decide))

theorem matches_pair {pair : Pair} {text behind : List Char} (spells : pair.Spells text)
    (passes : cursor.Passes (text ++ behind) next) (blank : Blank behind)
    (follows : Follows next.rest) :
    ∃ entries, rules.Matches (.rule (named "key_value")) cursor (.fields entries) next ∧
      pair.Pictures (Output.fields entries).toCapture := by
  obtain ⟨stop, textPasses, behindPasses⟩ := Cursor.passes_append.mp passes
  cases spells with
  | @mk key blanks value text isKey blanksBlank spellsValue =>
      obtain ⟨start, keyPasses, valuePasses⟩ := Cursor.passes_append.mp textPasses
      have clearValue : Clear isWhiteSpace start.rest := valuePasses.rest ▸ spellsValue.clear _
      have clearDigits : Clear isAsciiDigit stop.rest := by
        rw [behindPasses.rest]
        exact Clear.behind_run
          (fun c member => CharClass.not_isAsciiDigit_of_isWhiteSpace (blank c member))
          (follows.clear (by decide) (by decide))
      obtain ⟨slice, sameKey, keyFound⟩ := matches_key isKey blanksBlank keyPasses clearValue
      obtain ⟨entries, valueFound, pictures⟩ := values.matches_value spellsValue valuePasses clearDigits
      have inside : rules.Matches
          (sequence [rule (named "key"), capture "val" (rule (named "value"))]) cursor
          (.fields [("key", .atom slice), ("val", (Output.fields entries).toCapture)]) stop :=
        .sequence (.partsCons keyFound (.partsCons (.capture valueFound) .partsNil))
          (ofSequence_pair ..)
      have spaces := matches_blanks behindPasses blank follows.clear_space
      refine ⟨[("key_value", _)], ?_, .mk sameKey pictures⟩
      rw [matches_rule, body_key_value]
      exact .sequence (.partsCons (.capture inside) (.partsCons spaces .partsNil)) rfl

theorem comma_spelled (found : rules.Matches (.rule (named "comma")) cursor output next) :
    ∃ before behind, cursor.Passes (before ++ (',' :: behind)) next ∧ Blank before ∧
      Blank behind ∧ output = .text (cursor.sliceTo next) := by
  rw [matches_rule, body_comma] at found
  obtain ⟨_, inTurn, merged⟩ := found.of_sequence
  obtain ⟨_, start, _, spaces, behindSpaces, rfl⟩ := inTurn.of_cons
  obtain ⟨_, signed, _, sign, behindSign, rfl⟩ := behindSpaces.of_cons
  obtain ⟨_, stop, _, moreSpaces, ended, rfl⟩ := behindSign.of_cons
  obtain ⟨rfl, rfl⟩ := ended.of_nil
  obtain ⟨before, beforeTaken, rfl⟩ := matches_spaces.mp spaces
  obtain ⟨signPasses, rfl⟩ := sign.of_literal
  obtain ⟨behind, behindTaken, rfl⟩ := matches_spaces.mp moreSpaces
  cases merged
  exact ⟨before, behind, beforeTaken.passes.trans (signPasses.trans behindTaken.passes),
    beforeTaken.all, behindTaken.all, rfl⟩

theorem matches_comma {behind : List Char} (passes : cursor.Passes (',' :: behind) next)
    (blank : Blank behind) (clear : Clear isWhiteSpace next.rest) :
    rules.Matches (.rule (named "comma")) cursor (.text (cursor.sliceTo next)) next := by
  obtain ⟨signed, signPasses, behindPasses⟩ := Cursor.passes_cons.mp passes
  have clearSign : Clear isWhiteSpace cursor.rest :=
    signPasses.rest ▸ Clear.graphic (by decide)
  have sign : rules.Matches (.literal ",") cursor (.text (cursor.sliceTo signed)) signed :=
    .literal signPasses
  rw [matches_rule, body_comma]
  exact .sequence
    (.partsCons (matches_no_blanks clearSign)
      (.partsCons sign (.partsCons (matches_blanks behindPasses blank clear) .partsNil)))
    rfl

def roundNode : Node draft.rules.length :=
  sequence [rule (named "comma"), rule (named "key_value")]

theorem consumes_round : rules.Consumes roundNode :=
  accepted.consumes rfl

theorem fails_round {tail : List Char} (closes : cursor.rest = '\x7d' :: tail) :
    rules.Fails roundNode cursor := by
  have noSpaces := matches_no_blanks (closes ▸ Clear.graphic (by decide))
  have noSign : rules.Fails (.literal ",") cursor := by
    rw [fails_literal, closes]
    simp
  refine fails_sequence_cons.mpr (.inl ?_)
  rw [fails_rule, body_comma]
  exact fails_sequence_cons.mpr
    (.inr ⟨_, cursor, noSpaces, fails_sequence_cons.mpr (.inl noSign)⟩)

/-- Each round takes the blanks behind its pair, so that these come before the comma of the next
round. What stands in front, `lead`, is handed on from round to round. -/
theorem rounds_spelled {outputs : List Output}
    (rounds : rules.Rounds roundNode cursor outputs next) :
    ∃ pairs passed, cursor.Passes passed next ∧
      List.Forall₂ Pair.Pictures pairs (outputs.flatMap Output.roundItems) ∧
        ∀ lead, Blank lead → ∃ text behind, lead ++ passed = text ++ behind ∧
          SpellsMore pairs text ∧ Blank behind := by
  induction rounds with
  | nil =>
      refine ⟨[], [], .refl _, .nil, fun lead blank => ⟨[], lead, ?_, .nil, blank⟩⟩
      rw [List.append_nil, List.nil_append]
  | cons found _ ih =>
      obtain ⟨_, inTurn, merged⟩ := found.of_sequence
      obtain ⟨_, start, _, comma, behindComma, rfl⟩ := inTurn.of_cons
      obtain ⟨_, stop, _, pairFound, ended, rfl⟩ := behindComma.of_cons
      obtain ⟨rfl, rfl⟩ := ended.of_nil
      obtain ⟨before, behind, commaPasses, beforeBlank, behindBlank, rfl⟩ := comma_spelled comma
      obtain ⟨pair, front, text, back, entries, pairPasses, frontBlank, spells, backBlank, rfl,
        pictures⟩ := pair_spelled pairFound
      cases merged
      obtain ⟨pairs, passed, passes, picturesMore, spelled⟩ := ih
      refine ⟨pair :: pairs, _, (commaPasses.trans pairPasses).trans passes,
        .cons pictures picturesMore, fun lead blank => ?_⟩
      obtain ⟨more, last, same, spellsMore, lastBlank⟩ := spelled back backBlank
      refine ⟨_, last, ?_, .cons (blank.append beforeBlank) (behindBlank.append frontBlank) spells
        spellsMore, lastBlank⟩
      simp only [List.append_assoc, List.cons_append, ← same]

theorem rounds_of_spells {pairs : List Pair} {more : List Char} (spellsMore : SpellsMore pairs more)
    {pair : Pair} {text back tail : List Char} (spells : pair.Spells text) (blank : Blank back)
    (passes : cursor.Passes (text ++ more ++ back) next) (closes : next.rest = '\x7d' :: tail) :
    ∃ entries middle outputs,
      rules.Matches (.rule (named "key_value")) cursor (.fields entries) middle ∧
        rules.Rounds roundNode middle outputs next ∧
          List.Forall₂ Pair.Pictures (pair :: pairs)
            ((Output.fields entries).toCapture :: outputs.flatMap Output.roundItems) := by
  induction spellsMore generalizing cursor pair text with
  | nil =>
      rw [List.append_nil] at passes
      have follows : Follows next.rest := ⟨_, by rw [closes]; rfl, .inr rfl⟩
      obtain ⟨entries, found, pictures⟩ := matches_pair spells passes blank follows
      exact ⟨entries, next, [], found, .nil, .cons pictures .nil⟩
  | @cons before behind following text' rest more beforeBlank behindBlank spellsNext _ ih =>
      have split : text ++ (before ++ (',' :: behind) ++ text' ++ more) ++ back =
          (text ++ before) ++ ((',' :: behind) ++ (text' ++ more ++ back)) := by
        simp only [List.append_assoc]
      rw [split] at passes
      obtain ⟨middle, pairPasses, behindPair⟩ := Cursor.passes_append.mp passes
      obtain ⟨start, commaPasses, morePasses⟩ := Cursor.passes_append.mp behindPair
      have follows : Follows middle.rest := ⟨',', by rw [commaPasses.rest]; rfl, .inl rfl⟩
      have clear : Clear isWhiteSpace start.rest := by
        rw [morePasses.rest, List.append_assoc, List.append_assoc]
        exact spellsNext.clear _
      obtain ⟨entries, found, pictures⟩ := matches_pair spells pairPasses beforeBlank follows
      obtain ⟨nextEntries, stop, outputs, nextFound, rounds, picturesMore⟩ :=
        ih spellsNext morePasses
      have round : rules.Matches roundNode middle (.fields nextEntries) stop :=
        .sequence
          (.partsCons (matches_comma commaPasses behindBlank clear)
            (.partsCons nextFound .partsNil))
          rfl
      exact ⟨entries, middle, _, found, .cons round rounds, .cons pictures picturesMore⟩

theorem named_args_spelled (found : rules.Matches (.rule (named "named_args")) cursor output next) :
    ∃ inside first text rest more back captures,
      cursor.Passes (inside ++ (text ++ more) ++ back) next ∧ Blank inside ∧
        Pair.Spells first text ∧ SpellsMore rest more ∧ Blank back ∧
          output = .fields [("named_args", .list captures)] ∧
            List.Forall₂ Pair.Pictures (first :: rest) captures := by
  rw [matches_rule, body_named_args] at found
  obtain ⟨_, inTurn, merged⟩ := found.of_sequence
  obtain ⟨_, start, _, spaces, behindSpaces, rfl⟩ := inTurn.of_cons
  obtain ⟨_, stop, _, captured, behindPairs, rfl⟩ := behindSpaces.of_cons
  obtain ⟨_, last, _, moreSpaces, ended, rfl⟩ := behindPairs.of_cons
  obtain ⟨rfl, rfl⟩ := ended.of_nil
  obtain ⟨_, pairsFound, rfl⟩ := captured.of_capture
  obtain ⟨_, pairsTurn, pairsMerged⟩ := pairsFound.of_sequence
  obtain ⟨_, middle, _, firstFound, behindFirst, rfl⟩ := pairsTurn.of_cons
  obtain ⟨_, _, _, roundsFound, nothing, rfl⟩ := behindFirst.of_cons
  obtain ⟨rfl, rfl⟩ := nothing.of_nil
  obtain ⟨inside, insideTaken, rfl⟩ := matches_spaces.mp spaces
  obtain ⟨first, before, text, behind, entries, firstPasses, beforeBlank, spells, behindBlank, rfl,
    pictures⟩ := pair_spelled firstFound
  obtain ⟨outputs, rounds, -, -, rfl⟩ := (matches_repetition consumes_round).mp roundsFound
  obtain ⟨rest, passed, roundsPass, picturesMore, spelled⟩ := rounds_spelled rounds
  obtain ⟨more, lead, same, spellsMore, leadBlank⟩ := spelled behind behindBlank
  obtain ⟨back, backTaken, rfl⟩ := matches_spaces.mp moreSpaces
  cases pairsMerged
  cases merged
  refine ⟨inside ++ before, first, text, rest, more, lead ++ back, _, ?_,
    Blank.append insideTaken.all beforeBlank, spells, spellsMore,
    leadBlank.append backTaken.all, rfl, .cons pictures picturesMore⟩
  have sameBehind : behind ++ (passed ++ back) = more ++ (lead ++ back) := by
    rw [← List.append_assoc, same, List.append_assoc]
  have passes := insideTaken.passes.trans ((firstPasses.trans roundsPass).trans backTaken.passes)
  simpa only [List.append_assoc, sameBehind] using passes

theorem object_spelled (found : rules.Matches (.rule (named "hash_obj")) cursor output next) :
    ∃ pairs text captures, cursor.Passes text next ∧ SpellsObject pairs text ∧
      output = .fields [("named_args", .list captures)] ∧
        List.Forall₂ Pair.Pictures pairs captures := by
  rw [matches_rule, body_hash_obj] at found
  obtain ⟨_, inTurn, merged⟩ := found.of_sequence
  obtain ⟨_, opening, _, spaces, behindSpaces, rfl⟩ := inTurn.of_cons
  obtain ⟨_, start, _, openFound, behindOpen, rfl⟩ := behindSpaces.of_cons
  obtain ⟨_, closing, _, pairsFound, behindPairs, rfl⟩ := behindOpen.of_cons
  obtain ⟨_, stop, _, closeFound, behindClose, rfl⟩ := behindPairs.of_cons
  obtain ⟨_, last, _, moreSpaces, ended, rfl⟩ := behindClose.of_cons
  obtain ⟨rfl, rfl⟩ := ended.of_nil
  obtain ⟨front, frontTaken, rfl⟩ := matches_spaces.mp spaces
  obtain ⟨openPasses, rfl⟩ := openFound.of_literal
  obtain ⟨inside, first, text, rest, more, back, captures, pairsPass, insideBlank, spells,
    spellsMore, backBlank, rfl, pictures⟩ := named_args_spelled pairsFound
  obtain ⟨closePasses, rfl⟩ := closeFound.of_literal
  obtain ⟨behind, behindTaken, rfl⟩ := matches_spaces.mp moreSpaces
  cases merged
  refine ⟨first :: rest, _, captures, ?_,
    .mk frontTaken.all insideBlank spells spellsMore backBlank behindTaken.all, rfl, pictures⟩
  have passes := (frontTaken.passes.trans openPasses).trans
    (pairsPass.trans (closePasses.trans behindTaken.passes))
  simpa [List.append_assoc] using passes

/-- A hash object that ends the text is matched as it is spelled. -/
theorem matches_object {pairs : List Pair} {text : List Char} (spells : SpellsObject pairs text)
    (passes : cursor.Passes text next) (ended : next.rest = []) :
    ∃ captures, rules.Matches (.rule (named "hash_obj")) cursor
        (.fields [("named_args", .list captures)]) next ∧
      List.Forall₂ Pair.Pictures pairs captures := by
  cases spells with
  | @mk front inside first text rest more back behind frontBlank insideBlank spells spellsMore
      backBlank behindBlank =>
      have split : front ++ ('\x7b' :: inside) ++ (text ++ more) ++ (back ++ ('\x7d' :: behind)) =
          front ++ ('\x7b' :: (inside ++ ((text ++ more ++ back) ++ ('\x7d' :: behind)))) := by
        simp only [List.append_assoc, List.cons_append]
      rw [split] at passes
      obtain ⟨opening, frontPasses, behindFront⟩ := Cursor.passes_append.mp passes
      obtain ⟨opened, openPasses, behindOpen⟩ := Cursor.passes_cons.mp behindFront
      obtain ⟨start, insidePasses, behindInside⟩ := Cursor.passes_append.mp behindOpen
      obtain ⟨closing, pairsPass, behindPairs⟩ := Cursor.passes_append.mp behindInside
      obtain ⟨closed, closePasses, behindPasses⟩ := Cursor.passes_cons.mp behindPairs
      have closes : closing.rest = '\x7d' :: closed.rest := closePasses.rest
      obtain ⟨entries, middle, outputs, found, rounds, pictures⟩ :=
        rounds_of_spells spellsMore spells backBlank pairsPass closes
      have moreFound : rules.Matches (repetition roundNode 0 none true) middle
          (.list (outputs.flatMap Output.roundItems)) closing :=
        (matches_repetition consumes_round).mpr
          ⟨outputs, rounds, fails_round closes, Nat.zero_le _, rfl⟩
      have clearStart : Clear isWhiteSpace start.rest := by
        rw [pairsPass.rest, List.append_assoc, List.append_assoc]
        exact spells.clear _
      have clearOpening : Clear isWhiteSpace opening.rest :=
        openPasses.rest ▸ Clear.graphic (by decide)
      have clearClosing : Clear isWhiteSpace closing.rest :=
        closes ▸ Clear.graphic (by decide)
      have clearEnd : Clear isWhiteSpace next.rest := ended ▸ nofun
      have pairsFound : rules.Matches (.rule (named "named_args")) opened
          (.fields [("named_args",
            .list ((Output.fields entries).toCapture :: outputs.flatMap Output.roundItems))])
          closing := by
        rw [matches_rule, body_named_args]
        exact .sequence
          (.partsCons (matches_blanks insidePasses insideBlank clearStart)
            (.partsCons
              (.capture (.sequence (.partsCons found (.partsCons moreFound .partsNil)) rfl))
              (.partsCons (matches_no_blanks clearClosing) .partsNil)))
          rfl
      have opens : rules.Matches (.literal "\x7b") opening (.text (opening.sliceTo opened))
          opened := .literal openPasses
      have closesFound : rules.Matches (.literal "\x7d") closing (.text (closing.sliceTo closed))
          closed := .literal closePasses
      refine ⟨_, ?_, pictures⟩
      rw [matches_rule, body_hash_obj]
      exact .sequence
        (.partsCons (matches_blanks frontPasses frontBlank clearOpening)
          (.partsCons opens
            (.partsCons pairsFound
              (.partsCons closesFound
                (.partsCons (matches_blanks behindPasses behindBlank clearEnd) .partsNil)))))
        rfl

theorem grammar_parseSource (source : Source) :
    grammar.parseSource none source =
      checked.parseWith (named "hash_obj") source draft.maxNesting := by
  rw [grammar_eq]
  rfl

theorem never_exceeds (text : String) :
    (checked.run (named "hash_obj") text draft.maxNesting).2.exceeded = none :=
  RuleTable.run_deep height_body draft.maxNesting _ _ _
    (Nat.le_trans (height_body (named "hash_obj")) (by decide +kernel)) rfl

theorem parseSource_eq_ok {source : Source} {capture : Capture} :
    grammar.parseSource none source = .ok capture ↔
      ∃ output stop, rules.Matches (.rule (named "hash_obj")) (.start source.text) output stop ∧
        stop.rest = [] ∧ capture = output.toCapture := by
  rw [grammar_parseSource]
  exact @Grammar.parseWith_eq_ok checked facts (named "hash_obj") source draft.maxNesting accepted
    (never_exceeds source.text) capture

theorem parseSource_spelled {source : Source} {capture : Capture}
    (parsed : grammar.parseSource none source = .ok capture) :
    ∃ pairs, SpellsObject pairs source.text.toList := by
  obtain ⟨output, stop, found, ended, -⟩ := parseSource_eq_ok.mp parsed
  obtain ⟨pairs, text, _, passes, spells, -⟩ := object_spelled found
  have whole : source.text.toList = text ++ stop.rest := passes.rest
  rw [ended, List.append_nil] at whole
  exact ⟨pairs, whole ▸ spells⟩

theorem parseSource_of_spells {source : Source} {pairs : List Pair}
    (spells : SpellsObject pairs source.text.toList) :
    ∃ captures, grammar.parseSource none source = .ok (.tagged "named_args" (.list captures)) ∧
      List.Forall₂ Pair.Pictures pairs captures := by
  obtain ⟨stop, passes, ended⟩ := @Cursor.exists_passes (.start source.text) source.text.toList []
    (List.append_nil _).symm
  obtain ⟨captures, found, pictures⟩ := matches_object spells passes ended
  exact ⟨captures, parseSource_eq_ok.mpr ⟨_, stop, found, ended, rfl⟩, pictures⟩

/-- A source is parsed exactly if it spells pairs in braces, and then it is read to a record of
these pairs, or to a complaint about the first key that repeats an earlier one. -/
theorem hash_object_read (source : Source) (setting : Ruleset.Setting Plain) :
    ((∃ capture, grammar.parseSource none source = .ok capture) ↔
      ∃ pairs, SpellsObject pairs source.text.toList) ∧
    ∀ pairs, SpellsObject pairs source.text.toList →
      ∃ capture, grammar.parseSource none source = .ok capture ∧
        Reads pairs (ruleset.applyCapture setting capture) := by
  refine ⟨⟨?_, ?_⟩, ?_⟩
  · rintro ⟨capture, parsed⟩
    exact parseSource_spelled parsed
  · rintro ⟨pairs, spells⟩
    obtain ⟨captures, parsed, -⟩ := parseSource_of_spells spells
    exact ⟨_, parsed⟩
  · intro pairs spells
    obtain ⟨captures, parsed, pictures⟩ := parseSource_of_spells spells
    exact ⟨_, parsed, applyCapture_reads pictures⟩

/-- A key may be made of the punctuation of the language itself. -/
theorem hash_object_read_punctuation :
    ∃ capture, grammar.parseSource none (.ofInput "\x7b \x7b,': \"a: b\", int:3 \x7d") = .ok capture ∧
      Reads [⟨['\x7b', ',', '\''], .str ['a', ':', ' ', 'b']⟩, ⟨['i', 'n', 't'], .int ['3']⟩]
        (ruleset.applyCapture ⟨none, nofun⟩ capture) := by
  refine (hash_object_read _ _).2 _ ?_
  have first : Pair.Spells ⟨['\x7b', ',', '\''], .str ['a', ':', ' ', 'b']⟩
      (['\x7b', ',', '\''] ++ (':' :: [' ']) ++ ('"' :: (['a', ':', ' ', 'b'] ++ ['"']))) :=
    .mk ⟨by decide, List.all_eq_true.mp (by decide +kernel)⟩ .space (.str (.inr rfl) (by decide))
  have second : Pair.Spells ⟨['i', 'n', 't'], .int ['3']⟩
      (['i', 'n', 't'] ++ (':' :: []) ++ ['3']) :=
    .mk ⟨by decide, List.all_eq_true.mp (by decide +kernel)⟩ .nil
      (.int ⟨by decide, List.all_eq_true.mp (by decide)⟩)
  exact .mk .nil .space first (.cons .nil .space second .nil) .space .nil

end PegText.Language.Arguments
