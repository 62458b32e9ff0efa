import PegText.Proofs.Language.Directive
import PegText.Proofs.Language.Values

/-!
The lists of arguments that the grammar of directives matches. An argument is followed by a comma
or by the closing parenthesis, with blanks in front of it; then the ordered choice between the
kinds of arguments finds every spelling.
-/

namespace PegText.Language.Directive

open CharClass (isAsciiDigit isInline isBareChar isKeyChar)
open Node RuleTable

variable {cursor middle next : Cursor} {output : Output}

theorem reads_inline : rules.ReadsSome (.rule (named "inline_space")) isInline := by
  refine ReadsSome.rule ?_
  rw [body_inline_space, CharClass.accepted_inline]
  exact (readsOne_charClass _ _).repetition

theorem matches_space :
    rules.Matches (.rule (named "space?")) cursor output next ↔
      ∃ blanks, cursor.Takes isWhiteSpace blanks next ∧ output = .text (cursor.sliceTo next) := by
  rw [matches_rule, body_space, CharClass.accepted_space, (readsOne_charClass _ _).matches_run]
  simp

theorem reads_bareChar : rules.ReadsOne (.rule (named "bare_char")) isBareChar := by
  refine ReadsOne.rule ?_
  rw [body_bare_char, CharClass.accepted_bare]
  exact readsOne_charClass _ _

theorem matches_bare :
    rules.Matches (.rule (named "bare")) cursor output next ↔
      ∃ word, cursor.Takes isBareChar word next ∧ word ≠ [] ∧
        output = .fields [("bare", .atom (cursor.sliceTo next))] := by
  rw [matches_rule, body_bare]
  exact reads_bareChar.repetition.matches_capture

theorem matches_key :
    rules.Matches (.rule (named "key")) cursor output next ↔
      ∃ key, cursor.Takes isKeyChar key next ∧ key ≠ [] ∧
        output = .fields [("key", .atom (cursor.sliceTo next))] := by
  rw [matches_rule, body_key, CharClass.accepted_key]
  exact (readsOne_charClass _ _).repetition.matches_capture

theorem values : ValueRules rules (named "string") (named "integer") (named "value") :=
  ⟨⟨'\'', '"', by decide, fun _ => .rfl, body_string⟩, body_integer, body_value⟩

theorem ne_quote_of_isBareChar {c : Char} (isBare : isBareChar c = true) : c ≠ '\'' ∧ c ≠ '"' := by
  constructor
  all_goals
    rintro rfl
    simp [isBareChar] at isBare

theorem ofSequence_keyed (start stop : Cursor) (key value : Capture) (sign blanks : Slice) :
    Output.ofSequence start stop
        [.fields [("key", key)], .text sign, .text blanks, .fields [("value", value)]] =
      .ok (.fields [("key", key), ("value", value)]) := by
  change Output.mergeAll (.fields [("key", key)]) [.fields [("value", value)]] = _
  simp (disch := decide) [Output.mergeAll, Output.merge, Output.mergeFields, Entries.contains,
    Entries.insert_of_gt, Except.map]

def Found (cursor : Cursor) (phrase : Phrase) (output : Output) (next : Cursor) : Prop :=
  ∃ text entries, cursor.Passes text next ∧ phrase.Spells text ∧ output = .fields entries ∧
    phrase.Pictures (Output.fields entries).toCapture

theorem FoundLiteral.plain {value : Literal} (found : FoundLiteral cursor value output next) :
    Found cursor (.plain value) output next := by
  obtain ⟨text, entries, passes, spells, same, pictures⟩ := found
  exact ⟨text, entries, passes, .plain spells, same, .plain pictures⟩

theorem keyed_matches (found : rules.Matches (.rule (named "key_value")) cursor output next) :
    ∃ key blanks value text entries, cursor.Passes (key ++ (':' :: blanks) ++ text) next ∧
      Key key ∧ Inline blanks ∧ Literal.Spells value text ∧ output = .fields entries ∧
        (Phrase.keyed key value).Pictures (Output.fields entries).toCapture := by
  rw [matches_rule, body_key_value] at found
  obtain ⟨_, inside, rfl⟩ := found.of_capture
  obtain ⟨outputs, inTurn, merged⟩ := inside.of_sequence
  obtain ⟨_, signed, _, keyFound, behindKey, rfl⟩ := inTurn.of_cons
  obtain ⟨_, spaced, _, signFound, behindSign, rfl⟩ := behindKey.of_cons
  obtain ⟨_, start, _, blanksFound, behindBlanks, rfl⟩ := behindSign.of_cons
  obtain ⟨_, stop, _, valueFound, ended, rfl⟩ := behindBlanks.of_cons
  obtain ⟨rfl, rfl⟩ := ended.of_nil
  obtain ⟨key, keyTaken, filled, rfl⟩ := matches_key.mp keyFound
  obtain ⟨signPasses, rfl⟩ := signFound.of_literal
  obtain ⟨blanks, blanksTaken, rfl⟩ := reads_inline.matches_maybe.mp blanksFound
  obtain ⟨_, valueMatches, rfl⟩ := valueFound.of_capture
  obtain ⟨value, text, entries, valuePasses, spells, rfl, pictures⟩ :=
    values.of_value valueMatches
  cases (ofSequence_keyed _ _ _ _ _ _).symm.trans merged
  refine ⟨key, blanks, value, text, _, ?_, ⟨filled, keyTaken.all⟩, blanksTaken.all, spells, rfl,
    .keyed (text_sliceTo keyTaken.passes) pictures⟩
  exact (keyTaken.passes.trans (signPasses.trans blanksTaken.passes)).trans valuePasses

theorem matches_keyed {key blanks : List Char} {value : Literal} {start : Cursor}
    {entries : List (String × Capture)} (isKey : Key key) (inline : Inline blanks)
    (front : cursor.Passes (key ++ (':' :: blanks)) start) (clear : Clear isInline start.rest)
    (found : rules.Matches (.rule (named "value")) start (.fields entries) next)
    (pictures : value.Pictures (Output.fields entries).toCapture) :
    ∃ entries, rules.Matches (.rule (named "key_value")) cursor (.fields entries) next ∧
      (Phrase.keyed key value).Pictures (Output.fields entries).toCapture := by
  obtain ⟨signed, keyPasses, behindKey⟩ := Cursor.passes_append.mp front
  obtain ⟨spaced, signPasses, blanksPass⟩ := Cursor.passes_cons.mp behindKey
  have clearKey : Clear isKeyChar signed.rest := by
    rw [signPasses.rest]
    exact Clear.cons (by simp [isKeyChar])
  have keyTaken : cursor.Takes isKeyChar key signed := ⟨keyPasses, isKey.2, clearKey⟩
  have keyFound := matches_key.mpr ⟨key, keyTaken, isKey.1, rfl⟩
  have signFound : rules.Matches (.literal ":") signed (.text (signed.sliceTo spaced)) spaced :=
    .literal signPasses
  have blanksFound := reads_inline.matches_maybe.mpr ⟨blanks, ⟨blanksPass, inline, clear⟩, rfl⟩
  have pair : rules.Matches
      (sequence
        [rule (named "key"), literal ":", repetition (rule (named "inline_space")) 0 (some 1) false,
          capture "value" (rule (named "value"))])
      cursor
      (.fields
        [("key", .atom (cursor.sliceTo signed)), ("value", (Output.fields entries).toCapture)])
      next :=
    .sequence
      (.partsCons keyFound
        (.partsCons signFound
          (.partsCons blanksFound (.partsCons (.capture found) .partsNil))))
      (ofSequence_keyed ..)
  refine ⟨[("key_value", _)], ?_, .keyed (text_sliceTo keyPasses) pictures⟩
  rw [matches_rule, body_key_value]
  exact .capture pair

theorem matches_number {digits : List Char} (numeral : Numeral digits)
    (passes : cursor.Passes digits next) (clear : Clear isBareChar next.rest) :
    ∃ entries, rules.Matches (.rule (named "number")) cursor (.fields entries) next ∧
      (Literal.int digits).Pictures (Output.fields entries).toCapture := by
  have clearDigits : Clear isAsciiDigit next.rest :=
    clear.mono fun _ => CharClass.isBareChar_of_isAsciiDigit
  obtain ⟨entries, found, pictures⟩ := values.matches_int numeral passes clearDigits
  have noMore : rules.Matches (.absent (.rule (named "bare_char"))) next
      (.text (next.sliceTo next)) next := .absent (reads_bareChar.fails_iff.mpr clear)
  refine ⟨entries, ?_, pictures⟩
  rw [matches_rule, body_number]
  exact .sequence (.partsCons found (.partsCons noMore .partsNil)) rfl

theorem inline_nil : Inline [] := fun _ none => (List.not_mem_nil none).elim

theorem inline_space : Inline [' '] := by
  simp [Inline, isInline]

/-- Behind a key the digits are taken as far as they go, whatever comes next. -/
theorem matches_keyed_int {key digits : List Char} (isKey : Key key) (numeral : Numeral digits)
    (passes : cursor.Passes (key ++ ':' :: digits) next) (clear : Clear isAsciiDigit next.rest) :
    ∃ entries, rules.Matches (.rule (named "key_value")) cursor (.fields entries) next ∧
      (Phrase.keyed key (.int digits)).Pictures (Output.fields entries).toCapture := by
  rw [← List.singleton_append, ← List.append_assoc] at passes
  obtain ⟨start, front, digitsPasses⟩ := Cursor.passes_append.mp passes
  have clearInline : Clear isInline start.rest := by
    rw [digitsPasses.rest]
    exact ((Literal.Spells.int numeral).clear _).mono fun _ => CharClass.isWhiteSpace_of_isInline
  obtain ⟨entries, found, pictures⟩ := values.matches_value (.int numeral) digitsPasses clear
  exact matches_keyed isKey inline_nil front clearInline found pictures

/-- A key and a number behind it are always taken for an argument with a key. -/
theorem exists_keyed {key rest : List Char} {digit : Char}
    (same : cursor.rest = key ++ (':' :: digit :: rest)) (isKey : Key key)
    (isDigit : isAsciiDigit digit = true) :
    ∃ output next, rules.Matches (.rule (named "key_value")) cursor output next := by
  have split : cursor.rest = (key ++ [':']) ++ (digit :: rest) := by
    rw [same, List.append_assoc]
    rfl
  obtain ⟨start, front, rest_eq⟩ := Cursor.exists_passes split
  obtain ⟨digits, next, taken⟩ := Cursor.exists_takes isAsciiDigit start
  have filled : digits ≠ [] :=
    run_ne_nil isDigit taken.ended (rest_eq.symm.trans taken.passes.rest)
  have passes : cursor.Passes (key ++ ':' :: digits) next := by
    rw [← List.singleton_append, ← List.append_assoc]
    exact front.trans taken.passes
  obtain ⟨_, keyed, -⟩ := matches_keyed_int isKey ⟨filled, taken.all⟩ passes taken.ended
  exact ⟨_, _, keyed⟩

theorem Found.of_arg (found : rules.Matches (.rule (named "arg")) cursor output next) :
    ∃ phrase, Found cursor phrase output next := by
  rw [matches_rule, body_arg] at found
  rcases matches_choice_cons.mp found with string | ⟨-, behindString⟩
  · obtain ⟨_, inside⟩ := values.of_string string
    exact ⟨_, inside.plain⟩
  rcases matches_choice_cons.mp behindString with keyed | ⟨noKeyed, behindKeyed⟩
  · obtain ⟨key, blanks, value, text, entries, passes, isKey, inline, spells, rfl, pictures⟩ :=
      keyed_matches keyed
    exact ⟨.keyed key value, _, entries, passes, .keyed isKey inline spells, rfl, pictures⟩
  rcases matches_choice_cons.mp behindKeyed with number | ⟨noNumber, behindNumber⟩
  · rw [matches_rule, body_number] at number
    obtain ⟨outputs, inTurn, merged⟩ := number.of_sequence
    obtain ⟨_, middle, _, integer, behind, rfl⟩ := inTurn.of_cons
    obtain ⟨_, stop, _, noMore, ended, rfl⟩ := behind.of_cons
    obtain ⟨rfl, rfl⟩ := ended.of_nil
    obtain ⟨-, rfl, rfl⟩ := matches_absent.mp noMore
    obtain ⟨digits, text, entries, passes, spells, rfl, pictures⟩ :=
      values.of_integer integer
    cases merged
    exact ⟨.plain (.int digits), text, entries, passes, .plain spells, rfl, .plain pictures⟩
  rcases matches_choice_cons.mp behindNumber with bare | ⟨-, none⟩
  · obtain ⟨word, taken, filled, rfl⟩ := matches_bare.mp bare
    have notNumeral : ¬Numeral word := by
      intro numeral
      obtain ⟨_, number, -⟩ := matches_number numeral taken.passes taken.ended
      exact number.not_fails noNumber
    have notKeyed (key : List Char) (digit : Char) (rest : List Char) (isKey : Key key)
        (isDigit : isAsciiDigit digit = true) : word ≠ key ++ ':' :: digit :: rest := by
      rintro rfl
      have same := taken.passes.rest
      rw [List.append_assoc] at same
      obtain ⟨_, _, keyed⟩ := exists_keyed same isKey isDigit
      exact keyed.not_fails noKeyed
    exact ⟨.bare word, word, _, taken.passes, .bare ⟨filled, taken.all, notNumeral, notKeyed⟩, rfl,
      .bare (text_sliceTo taken.passes)⟩
  · exact (matches_choice_nil none).elim

/-! Every argument that is spelled is found: the kinds that are tried before its own fail on it. -/

def Follows (rest : List Char) : Prop :=
  ∃ blanks c tail, rest = blanks ++ c :: tail ∧ Blank blanks ∧ (c = ',' ∨ c = ')')

theorem Follows.clear {accepts : Char → Bool} {rest : List Char} (follows : Follows rest)
    (spaces : ∀ c, isWhiteSpace c = true → accepts c = false) (comma : accepts ',' = false)
    (closing : accepts ')' = false) : Clear accepts rest := by
  obtain ⟨blanks, sign, tail, rfl, blank, isSign⟩ := follows
  refine Clear.behind_run (fun c member => spaces c (blank c member)) (Clear.cons ?_)
  rcases isSign with rfl | rfl
  · exact comma
  · exact closing

theorem Follows.clear_bare {rest : List Char} (follows : Follows rest) : Clear isBareChar rest := by
  refine follows.clear ?_ (by simp [isBareChar]) (by simp [isBareChar])
  intro c space
  simp [isBareChar, space]

theorem fails_key_value
    (none : ∀ key blanks value text stop, cursor.Passes (key ++ (':' :: blanks) ++ text) stop →
      Key key → Inline blanks → ¬Literal.Spells value text) :
    rules.Fails (.rule (named "key_value")) cursor := by
  have within : .rule (named "key_value") ∈ rules.nodes :=
    RuleTable.mem_nodes.mpr ⟨named "arg", body_arg ▸ Node.mem_nodes_choice (by simp)⟩
  rw [accepted.fails_iff within]
  intro output next found
  obtain ⟨key, blanks, value, text, _, passes, isKey, inline, spells, -⟩ := keyed_matches found
  exact none key blanks value text next passes isKey inline spells

theorem fails_keyed_of_numeral {digits : List Char} (numeral : Numeral digits)
    (passes : cursor.Passes digits next) (follows : Follows next.rest) :
    rules.Fails (.rule (named "key_value")) cursor := by
  refine fails_key_value fun key blanks value text stop keyed isKey _ _ => ?_
  have same : key ++ (':' :: (blanks ++ (text ++ stop.rest))) = digits ++ next.rest := by
    rw [← passes.rest, keyed.rest]
    simp
  have clearSign : Clear isKeyChar (':' :: (blanks ++ (text ++ stop.rest))) :=
    Clear.cons (by simp [isKeyChar])
  have clear : Clear isKeyChar next.rest := by
    refine follows.clear ?_ (by simp [isKeyChar, isBareChar]) (by simp [isKeyChar, isBareChar])
    intro c space
    simp [isKeyChar, isBareChar, space]
  have digitsKey : ∀ c ∈ digits, isKeyChar c = true := fun c member =>
    CharClass.isKeyChar_of_isAsciiDigit (numeral.2 c member)
  obtain ⟨-, behind⟩ := run_unique isKey.2 clearSign digitsKey clear same
  have sign := follows.clear_bare ':' (by rw [← behind]; rfl)
  rw [CharClass.isBareChar_colon] at sign
  cases sign

theorem fails_keyed_of_bare {word : List Char} (bare : Bare word)
    (passes : cursor.Passes word next) (follows : Follows next.rest) :
    rules.Fails (.rule (named "key_value")) cursor := by
  refine fails_key_value fun key blanks value text stop keyed isKey inline spells => ?_
  have same : (key ++ [':']) ++ (blanks ++ (text ++ stop.rest)) = word ++ next.rest := by
    rw [← passes.rest, keyed.rest]
    simp
  have signed : ∀ c ∈ key ++ [':'], isBareChar c = true := by
    intro c member
    rcases List.mem_append.mp member with inKey | sign
    · exact CharClass.isBareChar_of_isKeyChar (isKey.2 c inKey)
    · rw [List.mem_singleton.mp sign]
      exact CharClass.isBareChar_colon
  obtain ⟨later, rfl⟩ := prefix_of_run signed follows.clear_bare same
  rw [List.append_assoc (key ++ [':']) later, List.append_cancel_left_eq] at same
  obtain ⟨c, tail, rfl, head⟩ := spells.head
  have blank : Blank blanks := fun c member =>
    CharClass.isWhiteSpace_of_isInline (inline c member)
  cases later with
  | nil =>
      -- behind the colon comes what may follow, and there no value begins
      obtain ⟨spaces, sign, _, rest_eq, spacesBlank, isSign⟩ := follows
      have signNotSpace : isWhiteSpace sign = false := by
        rcases isSign with rfl | rfl <;> exact CharClass.not_isWhiteSpace_of_isGraphic (by decide)
      rw [List.nil_append, rest_eq, List.cons_append] at same
      obtain ⟨-, begins⟩ := run_unique blank (Clear.cons (not_isWhiteSpace_of_head head))
        spacesBlank (Clear.cons signNotSpace) same
      cases begins
      rcases isSign with rfl | rfl <;> revert head <;> decide
  | cons d later =>
      have isBare : isBareChar d = true := bare.chars d (by simp)
      have clearBare : Clear isWhiteSpace (blanks ++ (c :: tail ++ stop.rest)) := by
        rw [same]
        exact Clear.cons (CharClass.not_isWhiteSpace_of_isBareChar isBare)
      have none := blank.eq_nil clearBare
      subst none
      cases (List.cons.inj same).1
      obtain ⟨single, double⟩ := ne_quote_of_isBareChar isBare
      rcases head with quote | quote | isDigit
      · exact single quote
      · exact double quote
      · exact bare.notKeyed key c later isKey isDigit (by simp)

theorem fails_number_of_bare {word : List Char} (bare : Bare word)
    (passes : cursor.Passes word next) (follows : Follows next.rest) :
    rules.Fails (.rule (named "number")) cursor := by
  rw [fails_rule, body_number, fails_sequence_cons]
  obtain ⟨digits, stop, taken⟩ := Cursor.exists_takes isAsciiDigit cursor
  by_cases filled : digits = []
  · subst filled
    cases Cursor.passes_nil.mp taken.passes
    exact .inl (values.fails_int taken.ended)
  right
  have numeral : Numeral digits := ⟨filled, taken.all⟩
  obtain ⟨entries, found, -⟩ := values.matches_int numeral taken.passes taken.ended
  refine ⟨_, stop, found, fails_sequence_cons.mpr (.inl (fails_absent.mpr ?_))⟩
  have same := taken.passes.rest.symm.trans passes.rest
  have digitsBare : ∀ c ∈ digits, isBareChar c = true := fun c member =>
    CharClass.isBareChar_of_isAsciiDigit (taken.all c member)
  obtain ⟨later, rfl⟩ := prefix_of_run digitsBare follows.clear_bare same
  rw [List.append_assoc, List.append_cancel_left_eq] at same
  cases later with
  | nil =>
      rw [List.append_nil] at bare
      exact (bare.notNumeral numeral).elim
  | cons c later =>
      have isBare : isBareChar c = true := bare.chars c (by simp)
      exact ⟨_, _, reads_bareChar.matches_iff.mpr ⟨c, isBare, .of_char same, rfl⟩⟩

/-- What spells an argument is matched as far as it goes. -/
theorem matches_arg {phrase : Phrase} {text : List Char} (spells : phrase.Spells text)
    (passes : cursor.Passes text next) (follows : Follows next.rest) :
    ∃ entries, rules.Matches (.rule (named "arg")) cursor (.fields entries) next ∧
      phrase.Pictures (Output.fields entries).toCapture := by
  simp only [matches_rule, body_arg]
  have clear : Clear isAsciiDigit next.rest :=
    follows.clear (fun _ => CharClass.not_isAsciiDigit_of_isWhiteSpace) (by decide) (by decide)
  have noString {c : Char} {tail : List Char} (begins : text = c :: tail)
      (isBare : isBareChar c = true) : rules.Fails (.rule (named "string")) cursor := by
    obtain ⟨single, double⟩ := ne_quote_of_isBareChar isBare
    have first : cursor.rest.head? = some c := by
      rw [passes.rest, begins]
      rfl
    exact values.fails_str first single double
  -- the alternatives are tried in turn, so those in front of the one that matches have to fail
  cases spells with
  | @plain value _ spellsValue =>
      cases spellsValue with
      | str isQuote outside =>
          obtain ⟨entries, found, pictures⟩ := values.matches_str isQuote outside passes
          exact ⟨entries, matches_choice_cons.mpr (.inl found), .plain pictures⟩
      | int numeral =>
          obtain ⟨entries, found, pictures⟩ := matches_number numeral passes follows.clear_bare
          have noKeyed := fails_keyed_of_numeral numeral passes follows
          cases text with
          | nil => exact (numeral.1 rfl).elim
          | cons c tail =>
              have isDigit := numeral.2 c List.mem_cons_self
              have noStr := noString rfl (CharClass.isBareChar_of_isAsciiDigit isDigit)
              exact ⟨entries, matches_choice_cons.mpr (.inr ⟨noStr,
                matches_choice_cons.mpr (.inr ⟨noKeyed,
                  matches_choice_cons.mpr (.inl found)⟩)⟩), .plain pictures⟩
  | @keyed key blanks value text isKey inline spellsValue =>
      obtain ⟨start, front, valuePasses⟩ := Cursor.passes_append.mp passes
      obtain ⟨entries, found, pictures⟩ := values.matches_value spellsValue valuePasses clear
      have clearInline : Clear isInline start.rest := by
        rw [valuePasses.rest]
        exact (spellsValue.clear _).mono fun _ => CharClass.isWhiteSpace_of_isInline
      obtain ⟨keyedEntries, keyed, keyedPictures⟩ :=
        matches_keyed isKey inline front clearInline found pictures
      cases key with
      | nil => exact (isKey.1 rfl).elim
      | cons c key =>
          have isBare := CharClass.isBareChar_of_isKeyChar (isKey.2 c List.mem_cons_self)
          exact ⟨keyedEntries, matches_choice_cons.mpr (.inr ⟨noString rfl isBare,
            matches_choice_cons.mpr (.inl keyed)⟩), keyedPictures⟩
  | @bare word bare =>
      have taken : cursor.Takes isBareChar text next :=
        ⟨passes, bare.chars, follows.clear_bare⟩
      have found := matches_bare.mpr ⟨text, taken, bare.filled, rfl⟩
      have noKeyed := fails_keyed_of_bare bare passes follows
      have noNumber := fails_number_of_bare bare passes follows
      cases text with
      | nil => exact (bare.filled rfl).elim
      | cons c tail =>
          have noStr := noString rfl (bare.chars c List.mem_cons_self)
          exact ⟨[("bare", .atom (cursor.sliceTo next))],
            matches_choice_cons.mpr (.inr ⟨noStr,
              matches_choice_cons.mpr (.inr ⟨noKeyed,
                matches_choice_cons.mpr (.inr ⟨noNumber,
                  matches_choice_cons.mpr (.inl found)⟩)⟩)⟩),
            .bare (text_sliceTo passes)⟩

def roundNode : Node draft.rules.length :=
  sequence [rule (named "space?"), literal ",", rule (named "space?"), rule (named "arg")]

theorem consumes_round : rules.Consumes roundNode :=
  accepted.consumes rfl

theorem rounds_spelled {outputs : List Output} (rounds : rules.Rounds roundNode cursor outputs next) :
    ∃ phrases text, cursor.Passes text next ∧ SpellsMore phrases text ∧
      List.Forall₂ Phrase.Pictures phrases (outputs.flatMap Output.roundItems) := by
  induction rounds with
  | nil => exact ⟨[], [], .refl _, .nil, .nil⟩
  | cons found _ ih =>
      obtain ⟨_, inTurn, merged⟩ := found.of_sequence
      obtain ⟨_, signed, _, spaces, behindSpaces, rfl⟩ := inTurn.of_cons
      obtain ⟨_, spaced, _, sign, behindSign, rfl⟩ := behindSpaces.of_cons
      obtain ⟨_, start, _, moreSpaces, behindMore, rfl⟩ := behindSign.of_cons
      obtain ⟨_, stop, _, inside, ended, rfl⟩ := behindMore.of_cons
      obtain ⟨rfl, rfl⟩ := ended.of_nil
      obtain ⟨before, beforeTaken, rfl⟩ := matches_space.mp spaces
      obtain ⟨signPasses, rfl⟩ := sign.of_literal
      obtain ⟨behind, behindTaken, rfl⟩ := matches_space.mp moreSpaces
      obtain ⟨phrase, text, entries, passes, spells, rfl, pictures⟩ := Found.of_arg inside
      cases merged
      obtain ⟨phrases, more, morePasses, spellsMore, picturesMore⟩ := ih
      have front := beforeTaken.passes.trans (signPasses.trans behindTaken.passes)
      exact ⟨phrase :: phrases, _, (front.trans passes).trans morePasses,
        .cons beforeTaken.all behindTaken.all spells spellsMore, .cons pictures picturesMore⟩

theorem arglist_spelled (found : rules.Matches (.rule (named "arglist")) cursor output next) :
    ∃ first rest text more captures, cursor.Passes (text ++ more) next ∧
      Phrase.Spells first text ∧ SpellsMore rest more ∧ output = .list captures ∧
        List.Forall₂ Phrase.Pictures (first :: rest) captures := by
  rw [matches_rule, body_arglist] at found
  obtain ⟨outputs, inTurn, merged⟩ := found.of_sequence
  obtain ⟨_, middle, _, first, behind, rfl⟩ := inTurn.of_cons
  obtain ⟨_, stop, _, more, ended, rfl⟩ := behind.of_cons
  obtain ⟨rfl, rfl⟩ := ended.of_nil
  obtain ⟨phrase, text, entries, passes, spells, rfl, pictures⟩ := Found.of_arg first
  obtain ⟨rounds, roundsFound, -, -, rfl⟩ := (matches_repetition consumes_round).mp more
  obtain ⟨phrases, moreText, morePasses, spellsMore, picturesMore⟩ := rounds_spelled roundsFound
  cases merged
  exact ⟨phrase, phrases, text, moreText, _, passes.trans morePasses, spells, spellsMore, rfl,
    .cons pictures picturesMore⟩

theorem paren_args_spelled
    (found : rules.Matches (.rule (named "paren_args")) cursor output next) :
    ∃ phrases text captures, cursor.Passes text next ∧ SpellsList phrases text ∧
      output = .list captures ∧ List.Forall₂ Phrase.Pictures phrases captures := by
  rw [matches_rule, body_paren_args] at found
  obtain ⟨outputs, inTurn, merged⟩ := found.of_sequence
  obtain ⟨_, opened, _, openFound, behindOpen, rfl⟩ := inTurn.of_cons
  obtain ⟨_, start, _, spaces, behindSpaces, rfl⟩ := behindOpen.of_cons
  obtain ⟨_, closing, _, listFound, behindList, rfl⟩ := behindSpaces.of_cons
  obtain ⟨_, stop, _, closeFound, ended, rfl⟩ := behindList.of_cons
  obtain ⟨rfl, rfl⟩ := ended.of_nil
  obtain ⟨openPasses, rfl⟩ := openFound.of_literal
  obtain ⟨closePasses, rfl⟩ := closeFound.of_literal
  obtain ⟨blanks, blanksTaken, rfl⟩ := matches_space.mp spaces
  have front := openPasses.trans blanksTaken.passes
  rcases matches_maybe.mp listFound with ⟨yielded, inside, rfl⟩ | ⟨-, rfl, rfl⟩
  · obtain ⟨_, insideTurn, insideMerged⟩ := inside.of_sequence
    obtain ⟨_, spaced, _, arguments, behindArguments, rfl⟩ := insideTurn.of_cons
    obtain ⟨_, last, _, moreSpaces, nothing, rfl⟩ := behindArguments.of_cons
    obtain ⟨rfl, rfl⟩ := nothing.of_nil
    obtain ⟨first, rest, text, moreText, captures, passes, spells, spellsMore, rfl, pictures⟩ :=
      arglist_spelled arguments
    obtain ⟨more, moreTaken, rfl⟩ := matches_space.mp moreSpaces
    cases insideMerged
    cases merged
    refine ⟨first :: rest, _, captures,
      (front.trans passes).trans (moreTaken.passes.trans closePasses),
      .cons blanksTaken.all spells spellsMore moreTaken.all, ?_, pictures⟩
    rw [Output.ofRounds_structured, List.flatMap_singleton, Output.roundItems]
  · cases merged
    exact ⟨[], _, [], front.trans closePasses, .empty blanksTaken.all, rfl, .nil⟩

def Closes (rest : List Char) : Prop :=
  ∃ blanks tail, rest = blanks ++ ')' :: tail ∧ Blank blanks

theorem Closes.follows {rest : List Char} (closes : Closes rest) : Follows rest := by
  obtain ⟨blanks, tail, same, blank⟩ := closes
  exact ⟨blanks, ')', tail, same, blank, .inr rfl⟩

theorem SpellsMore.follows {phrases : List Phrase} {text rest : List Char}
    (spells : SpellsMore phrases text) (closes : Closes rest) : Follows (text ++ rest) := by
  cases spells with
  | nil => exact closes.follows
  | @cons before behind next text _ more blank =>
      refine ⟨before, ',', behind ++ (text ++ (more ++ rest)), ?_, blank, .inl rfl⟩
      simp

theorem Phrase.Spells.clear {phrase : Phrase} {text : List Char} (spells : phrase.Spells text)
    (rest : List Char) : Clear isWhiteSpace (text ++ rest) := by
  have notSpace {c : Char} : isBareChar c = true → isWhiteSpace c = false :=
    CharClass.not_isWhiteSpace_of_isBareChar
  cases spells with
  | plain spellsValue => exact spellsValue.clear rest
  | keyed isKey =>
      rw [List.append_assoc, List.append_assoc]
      exact Clear.of_run isKey.1 fun c member =>
        notSpace (CharClass.isBareChar_of_isKeyChar (isKey.2 c member))
  | bare bare => exact Clear.of_run bare.filled fun c member => notSpace (bare.chars c member)

theorem matches_blanks {blanks : List Char} (passes : cursor.Passes blanks next)
    (blank : Blank blanks) (clear : Clear isWhiteSpace next.rest) :
    rules.Matches (.rule (named "space?")) cursor (.text (cursor.sliceTo next)) next :=
  matches_space.mpr ⟨blanks, ⟨passes, blank, clear⟩, rfl⟩

theorem fails_round (closes : Closes cursor.rest) : rules.Fails roundNode cursor := by
  obtain ⟨blanks, tail, same, blank⟩ := closes
  obtain ⟨start, passes, rest_eq⟩ := Cursor.exists_passes same
  have clear : Clear isWhiteSpace start.rest := rest_eq ▸ Clear.graphic (by decide)
  have noSign : rules.Fails (.literal ",") start := by
    rw [fails_literal, rest_eq]
    simp
  exact fails_sequence_cons.mpr
    (.inr ⟨_, start, matches_blanks passes blank clear, fails_sequence_cons.mpr (.inl noSign)⟩)

theorem rounds_of_spells {phrases : List Phrase} {text : List Char}
    (spells : SpellsMore phrases text) (passes : cursor.Passes text next)
    (closes : Closes next.rest) :
    ∃ outputs, rules.Rounds roundNode cursor outputs next ∧
      List.Forall₂ Phrase.Pictures phrases (outputs.flatMap Output.roundItems) := by
  induction spells generalizing cursor with
  | nil =>
      cases Cursor.passes_nil.mp passes
      exact ⟨[], .nil, .nil⟩
  | @cons before behind phrase text rest more beforeBlank behindBlank spellsNext spellsMore ih =>
      obtain ⟨middle, front, morePasses⟩ := Cursor.passes_append.mp passes
      obtain ⟨start, signed, textPasses⟩ := Cursor.passes_append.mp front
      obtain ⟨sign, beforePasses, behindSign⟩ := Cursor.passes_append.mp signed
      obtain ⟨spaced, signPasses, behindPasses⟩ := Cursor.passes_cons.mp behindSign
      have follows : Follows middle.rest := morePasses.rest ▸ spellsMore.follows closes
      have clearSign : Clear isWhiteSpace sign.rest :=
        signPasses.rest ▸ Clear.graphic (by decide)
      have clearText : Clear isWhiteSpace start.rest := textPasses.rest ▸ spellsNext.clear _
      have comma : rules.Matches (.literal ",") sign (.text (sign.sliceTo spaced)) spaced :=
        .literal signPasses
      obtain ⟨entries, found, pictures⟩ := matches_arg spellsNext textPasses follows
      obtain ⟨outputs, rounds, picturesMore⟩ := ih morePasses
      have round : rules.Matches roundNode cursor (.fields entries) middle :=
        .sequence
          (.partsCons (matches_blanks beforePasses beforeBlank clearSign)
            (.partsCons comma
              (.partsCons (matches_blanks behindPasses behindBlank clearText)
                (.partsCons found .partsNil))))
          rfl
      exact ⟨_, .cons round rounds, .cons pictures picturesMore⟩

theorem fails_arg (closing : cursor.rest.head? = some ')') :
    rules.Fails (.rule (named "arg")) cursor := by
  have clear {accepts : Char → Bool} (refused : accepts ')' = false) :
      Clear accepts cursor.rest := by
    intro c first
    rw [closing] at first
    exact Option.some.inj first ▸ refused
  have noKey : rules.Fails (.rule (named "key_value")) cursor := by
    rw [fails_rule, body_key_value, fails_capture, fails_sequence_cons]
    left
    rw [fails_rule, body_key, fails_capture, CharClass.accepted_key,
      (readsOne_charClass _ _).repetition.fails_iff]
    exact clear (by simp [isKeyChar, isBareChar])
  have noNumber : rules.Fails (.rule (named "number")) cursor := by
    rw [fails_rule, body_number, fails_sequence_cons]
    exact .inl (values.fails_int (clear (by decide)))
  have noBare : rules.Fails (.rule (named "bare")) cursor := by
    rw [fails_rule, body_bare, fails_capture, reads_bareChar.repetition.fails_iff]
    exact clear (by simp [isBareChar])
  rw [fails_rule, body_arg, fails_choice]
  simp only [List.forall_mem_cons, List.not_mem_nil, false_imp_iff, implies_true, and_true]
  exact ⟨values.fails_str closing (by decide) (by decide), noKey, noNumber, noBare⟩

theorem matches_arglist {first : Phrase} {rest : List Phrase} {text more : List Char}
    (spells : first.Spells text) (spellsMore : SpellsMore rest more)
    (passes : cursor.Passes (text ++ more) next) (closes : Closes next.rest) :
    ∃ captures, rules.Matches (.rule (named "arglist")) cursor (.list captures) next ∧
      List.Forall₂ Phrase.Pictures (first :: rest) captures := by
  obtain ⟨middle, firstPasses, morePasses⟩ := Cursor.passes_append.mp passes
  have follows : Follows middle.rest := morePasses.rest ▸ spellsMore.follows closes
  obtain ⟨entries, found, pictures⟩ := matches_arg spells firstPasses follows
  obtain ⟨outputs, rounds, picturesMore⟩ := rounds_of_spells spellsMore morePasses closes
  have moreFound : rules.Matches (repetition roundNode 0 none true) middle
      (.list (outputs.flatMap Output.roundItems)) next :=
    (matches_repetition consumes_round).mpr
      ⟨outputs, rounds, fails_round closes, Nat.zero_le _, rfl⟩
  refine ⟨(Output.fields entries).toCapture :: outputs.flatMap Output.roundItems, ?_,
    .cons pictures picturesMore⟩
  rw [matches_rule, body_arglist]
  exact .sequence (.partsCons found (.partsCons moreFound .partsNil)) rfl

def insideNode : Node draft.rules.length :=
  sequence [rule (named "arglist"), rule (named "space?")]

theorem matches_between {start closing : Cursor} {blanks : List Char} {captures : List Capture}
    (front : cursor.Passes ('(' :: blanks) start) (blank : Blank blanks)
    (clear : Clear isWhiteSpace start.rest)
    (found : rules.Matches (repetition insideNode 0 (some 1) true) start (.list captures) closing)
    (closePasses : closing.Passes [')'] next) :
    rules.Matches (.rule (named "paren_args")) cursor (.list captures) next := by
  obtain ⟨opened, openPasses, blanksPass⟩ := Cursor.passes_cons.mp front
  have opens : rules.Matches (.literal "(") cursor (.text (cursor.sliceTo opened)) opened :=
    .literal openPasses
  have closes : rules.Matches (.literal ")") closing (.text (closing.sliceTo next)) next :=
    .literal closePasses
  rw [matches_rule, body_paren_args]
  exact .sequence
    (.partsCons opens
      (.partsCons (matches_blanks blanksPass blank clear)
        (.partsCons found (.partsCons closes .partsNil))))
    rfl

theorem matches_paren_args {phrases : List Phrase} {text : List Char}
    (spells : SpellsList phrases text) (passes : cursor.Passes text next) :
    ∃ captures, rules.Matches (.rule (named "paren_args")) cursor (.list captures) next ∧
      List.Forall₂ Phrase.Pictures phrases captures := by
  have clearClosing {rest : List Char} : Clear isWhiteSpace (')' :: rest) :=
    Clear.graphic (by decide)
  cases spells with
  | empty blank =>
      obtain ⟨closing, front, closePasses⟩ := Cursor.passes_append.mp passes
      have none : rules.Fails insideNode closing := by
        rw [insideNode, fails_sequence_cons, fails_rule, body_arglist, fails_sequence_cons]
        exact .inl (.inl (fails_arg closePasses.head?))
      have found : rules.Matches (repetition insideNode 0 (some 1) true) closing (.list []) closing :=
        matches_maybe.mpr (.inr ⟨none, rfl, rfl⟩)
      have clear : Clear isWhiteSpace closing.rest := closePasses.rest ▸ clearClosing
      exact ⟨[], matches_between front blank clear found closePasses, .nil⟩
  | cons blank spellsFirst spellsMore behindBlank =>
      obtain ⟨last, frontAndText, behind⟩ := Cursor.passes_append.mp passes
      obtain ⟨start, front, textPasses⟩ := Cursor.passes_append.mp frontAndText
      obtain ⟨closing, behindPasses, closePasses⟩ := Cursor.passes_append.mp behind
      have closes : Closes last.rest := by
        refine ⟨_, next.rest, ?_, behindBlank⟩
        rw [behindPasses.rest, closePasses.rest]
        rfl
      obtain ⟨captures, arguments, pictures⟩ :=
        matches_arglist spellsFirst spellsMore textPasses closes
      have clear : Clear isWhiteSpace start.rest := by
        rw [textPasses.rest, List.append_assoc]
        exact spellsFirst.clear _
      have clearBehind : Clear isWhiteSpace closing.rest := closePasses.rest ▸ clearClosing
      have inside : rules.Matches insideNode start (.list captures) closing :=
        .sequence
          (.partsCons arguments
            (.partsCons (matches_blanks behindPasses behindBlank clearBehind) .partsNil))
          rfl
      have found : rules.Matches (repetition insideNode 0 (some 1) true) start (.list captures)
          closing := by
        refine matches_maybe.mpr (.inl ⟨_, inside, ?_⟩)
        rw [Output.ofRounds_structured, List.flatMap_singleton, Output.roundItems]
      exact ⟨captures, matches_between front blank clear found closePasses, pictures⟩

end PegText.Language.Directive
