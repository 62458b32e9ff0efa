import PegText.Proofs.Language.Reading
import PegText.Proofs.Parse.Needs

/-!
How deeply a sum nests a parse. Each sign costs five levels, and the last addend eleven: the deepest
node there lies in the attempt to find one more sign.
-/

namespace PegText.Language.Expression

open CharClass (isAsciiDigit isIdentifierLetter)
open Node RuleTable

/-- So many signs, with numerals between them, and blanks behind numerals and signs. -/
inductive Chain : Nat → List Char → Prop
  | last {digits blanks} : Numeral digits → Blank blanks → Chain 0 (digits ++ blanks)
  | more {signs digits blanks gap rest} : Numeral digits → Blank blanks → Blank gap →
      Chain signs rest → Chain (signs + 1) (digits ++ blanks ++ ('+' :: gap) ++ rest)

theorem Chain.spells {signs : Nat} {text : List Char} (chain : Chain signs text) :
    ∃ phrase, Spells phrase text := by
  induction chain with
  | last numeral blank => exact ⟨_, .int numeral blank⟩
  | more numeral blank blankGap _ ih =>
      obtain ⟨phrase, spells⟩ := ih
      exact ⟨_, .sum numeral blank blankGap spells⟩

variable {cursor next : Cursor} {output : Output} {depth : Nat}

theorem needs_spaces (cursor : Cursor) : rules.Needs (.node (.rule (named "space?"))) cursor 5 := by
  have space (cursor : Cursor) : rules.Needs (.node (.rule (named "space"))) cursor 3 := by
    apply Needs.rule
    rw [body_space]
    exact .repetition (.rounds rfl fun cursor => .charClass _ _ cursor)
  apply Needs.rule
  rw [body_spaces]
  exact .repetition (.rounds rfl space)

theorem needs_padded {node : Node draft.rules.length} {yielded : Output} {middle : Cursor}
    (token : rules.Needs (.node node) cursor depth) (found : rules.Matches node cursor yielded middle)
    (low : depth ≤ 5) : rules.Needs (.node (sequence [node, rule (named "space?")])) cursor 6 := by
  have spaces := Needs.parts_last accepted (needs_spaces middle)
  have parts := Needs.parts_matched accepted token found spaces
  rw [Nat.max_eq_right low] at parts
  exact .sequence parts

theorem needs_integer (found : rules.Matches (.rule (named "integer")) cursor output next) :
    rules.Needs (.node (.rule (named "integer"))) cursor 7 := by
  rw [matches_rule, body_integer] at found
  obtain ⟨_, middle, _, digits, -⟩ := padded_matches found
  have token : rules.Needs (.node digitsNode) cursor 3 :=
    .capture (.repetition (.rounds rfl fun cursor => .charClass _ _ cursor))
  apply Needs.rule
  rw [body_integer]
  exact needs_padded token digits (by omega)

theorem needs_plus (cursor : Cursor) : rules.Needs (.node (capture "op" (literal "+"))) cursor 2 :=
  .capture (.literal "+" cursor)

theorem needs_operator (found : rules.Matches (.rule (named "operator")) cursor output next) :
    rules.Needs (.node (.rule (named "operator"))) cursor 7 := by
  rw [matches_rule, body_operator] at found
  obtain ⟨_, middle, _, sign, -⟩ := padded_matches found
  apply Needs.rule
  rw [body_operator]
  exact needs_padded (needs_plus cursor) sign (by omega)

theorem needs_no_operator (noSign : ¬['+'] <+: cursor.rest) :
    rules.Needs (.node (.rule (named "operator"))) cursor 4 ∧
      rules.Fails (.rule (named "operator")) cursor := by
  have failed : rules.Fails (capture "op" (literal "+")) cursor := by
    rw [fails_capture, fails_literal]
    exact noSign
  constructor
  · apply Needs.rule
    rw [body_operator]
    exact .sequence (.parts_failed accepted (needs_plus cursor) failed)
  · rw [fails_rule, body_operator, fails_sequence_cons]
    exact .inl failed

/-! What is tried and abandoned on the way to a numeral needs levels as well. -/

theorem needs_no_call (clear : Clear isIdentifierLetter cursor.rest) :
    rules.Needs (.node (.rule (named "funcall"))) cursor 6 := by
  have name : rules.Needs (.node (capture "funcall" (rule (named "identifier")))) cursor 4 := by
    apply Needs.capture
    apply Needs.rule
    rw [body_identifier]
    exact .repetition (.rounds rfl fun cursor => .charClass _ _ cursor)
  have failed : rules.Fails (capture "funcall" (rule (named "identifier"))) cursor := by
    rw [fails_capture, reads_identifier.fails_iff]
    exact clear
  apply Needs.rule
  rw [body_funcall]
  exact .sequence (.parts_failed accepted name failed)

theorem needs_no_quoted {quote : Char} (other : cursor.rest.head? ≠ some quote) :
    rules.Needs (.node (quotedNode quote)) cursor 2 :=
  .sequence (.parts_failed accepted (.char quote cursor) (fails_char.mpr other))

theorem needs_no_string (single : cursor.rest.head? ≠ some '\'')
    (double : cursor.rest.head? ≠ some '"') :
    rules.Needs (.node (.rule (named "string"))) cursor 5 := by
  have branches := Needs.branches_failed accepted (needs_no_quoted single)
    (fails_quoted_of_head single) (.branches_failed accepted (needs_no_quoted double)
      (fails_quoted_of_head double) .branches_nil)
  have token : rules.Needs (.node stringNode) cursor 3 := .choice branches
  apply Needs.rule
  rw [body_string]
  exact .sequence (.parts_failed accepted token (fails_string single double))

/-- In front of a numeral, an expression needs one level more than a sum does, since no other
alternative is as deep. -/
theorem needs_expression {digits rest : List Char} (numeral : Numeral digits)
    (begins : cursor.rest = digits ++ rest)
    (found : rules.Matches (.rule (named "integer")) cursor output next)
    (sum : rules.Needs (.node (.rule (named "sum"))) cursor depth) (deep : 7 ≤ depth) :
    rules.Needs (.node (rules.get (named "expression")).body) cursor (depth + 1) := by
  obtain ⟨c, first, isDigit⟩ := @Numeral.head _ rest numeral
  rw [← begins] at first
  have noQuote (quote : Char) (refused : isAsciiDigit quote = false) :
      cursor.rest.head? ≠ some quote := by
    intro same
    rw [first] at same
    cases same
    rw [isDigit] at refused
    cases refused
  have single := noQuote '\'' (by decide)
  have double := noQuote '"' (by decide)
  have clear : Clear isIdentifierLetter cursor.rest := begins ▸ clear_letters numeral
  have noString : rules.Fails (.rule (named "string")) cursor := by
    rw [fails_rule, body_string, fails_sequence_cons]
    exact .inl (fails_string single double)
  have onlyInteger := Needs.branches_cons accepted (needs_integer found) .branches_nil
    fun _ => Nat.zero_le 7
  have behindSum := Needs.branches_failed accepted (needs_no_string single double) noString
    onlyInteger
  have behindCall := Needs.branches_cons accepted sum behindSum fun _ => deep
  have branches := Needs.branches_failed accepted (needs_no_call clear) (fails_call clear) behindCall
  have deepest : max 6 (max depth (max 5 (max 7 0))) = depth := by omega
  rw [deepest] at branches
  rw [body_expression]
  exact .choice branches

theorem needs_sum {more : Nat}
    (found : rules.Matches (.rule (named "integer")) cursor output next)
    (behind : rules.Needs
      (.parts [rule (named "operator"), capture "right" (rule (named "expression"))]) next more) :
    rules.Needs (.node (.rule (named "sum"))) cursor (max 8 more + 2) := by
  have left : rules.Needs (.node (capture "left" (rule (named "integer")))) cursor 8 :=
    .capture (needs_integer found)
  apply Needs.rule
  rw [body_sum]
  exact .sequence (.parts_matched accepted left (.capture found) behind)

/-- The levels that a sum needs, one sign after the other. -/
theorem Chain.needs {signs : Nat} {text : List Char} (chain : Chain signs text)
    (begins : cursor.rest = text) :
    rules.Needs (.node (rules.get (named "expression")).body) cursor (5 * signs + 11) := by
  induction chain generalizing cursor with
  | @last digits blanks numeral blank =>
      obtain ⟨next, passes, ended⟩ :=
        @Cursor.exists_passes cursor (digits ++ blanks) [] (by rw [begins, List.append_nil])
      have clear {accepts : Char → Bool} : Clear accepts next.rest := by simp [Clear, ended]
      obtain ⟨_, -, found⟩ := matches_integer passes numeral blank clear clear
      obtain ⟨operator, noOperator⟩ := @needs_no_operator next (by simp [ended])
      have sum := needs_sum found (.parts_failed accepted operator noOperator)
      exact needs_expression numeral begins found sum (by omega)
  | @more signs digits blanks gap rest numeral blank blankGap chain ih =>
      obtain ⟨middle, leftPasses, middleRest⟩ :=
        @Cursor.exists_passes cursor (digits ++ blanks) (('+' :: gap) ++ rest)
          (by rw [begins, List.append_assoc])
      obtain ⟨start, signPasses, startRest⟩ := Cursor.exists_passes middleRest
      have clearSign {accepts : Char → Bool} (refused : accepts '+' = false) :
          Clear accepts middle.rest := middleRest ▸ Clear.cons refused
      obtain ⟨_, -, found⟩ := matches_integer leftPasses numeral blank
        (clearSign (CharClass.not_isWhiteSpace_of_isGraphic (by decide))) (clearSign (by decide))
      have clearRight : Clear isWhiteSpace start.rest := by
        obtain ⟨phrase, spells⟩ := chain.spells
        rw [startRest, ← List.append_nil rest]
        exact spells.clear []
      obtain ⟨_, -, signFound⟩ := matches_operator signPasses blankGap clearRight
      have right : rules.Needs (.node (.capture "right" (.rule (named "expression")))) start
          (5 * signs + 11 + 1 + 1) := .capture (.rule (ih startRest))
      have sum := needs_sum found (.parts_matched accepted (needs_operator signFound) signFound
        (.parts_last accepted right))
      have deepest : max 8 (max 7 (5 * signs + 11 + 1 + 1)) + 2 = 5 * signs + 15 := by omega
      rw [deepest] at sum
      have begins' : cursor.rest = digits ++ (blanks ++ (('+' :: gap) ++ rest)) := by
        simpa using begins
      exact needs_expression numeral begins' found sum (by omega)

/-- A sum is parsed from five levels for each sign and eleven more on, and with fewer levels it is
refused for nesting too deeply. -/
theorem parseNested_sum {signs : Nat} {source : Source} (chain : Chain signs source.text.toList)
    (limit : Nat) :
    (5 * signs + 11 ≤ limit → ∃ capture, grammar.parseNested none source limit = .ok capture) ∧
    (limit < 5 * signs + 11 → ∃ diagnostic,
      grammar.parseNested none source limit = .error diagnostic ∧
        diagnostic.cause = .nestingLimit limit) := by
  have same : grammar.parseNested none source limit =
      checked.parseWith (named "expression") source limit := by
    rw [grammar_eq]
    rfl
  have begins : (Cursor.start source.text).rest = source.text.toList := rfl
  have settles : (checked.run (named "expression") source.text limit).2.exceeded = none ↔
      5 * signs + 11 ≤ limit :=
    chain.needs begins (rules.body_mem_nodes _) limit .initial _ rfl .node
  rw [same]
  constructor
  · intro enough
    obtain ⟨phrase, spells⟩ := chain.spells
    obtain ⟨output, stop, found, ended, -⟩ := spells_iff.mp spells
    have parses {capture : Capture} := @Grammar.parseWith_eq_ok checked facts (named "expression")
      source limit accepted (settles.mpr enough) capture
    exact ⟨_, parses.mpr ⟨output, stop, found, ended, rfl⟩⟩
  · intro few
    have exceeds := mt settles.mp (Nat.not_le.mpr few)
    obtain ⟨position, exceeded⟩ := Option.ne_none_iff_exists'.mp exceeds
    exact ⟨_, Grammar.conclude_of_exceeded source limit exceeded, rfl⟩

theorem parseNested_sum_one_sign :
    Chain 1 "12 + 3".toList ∧
      (∃ capture, grammar.parseNested none (.ofInput "12 + 3") 16 = .ok capture) ∧
      ∃ diagnostic, grammar.parseNested none (.ofInput "12 + 3") 15 = .error diagnostic ∧
        diagnostic.cause = .nestingLimit 15 := by
  have twelve : Numeral ['1', '2'] := ⟨by simp, List.all_eq_true.mp (by decide)⟩
  have three : Numeral ['3'] := ⟨by simp, List.all_eq_true.mp (by decide)⟩
  have chain : Chain 1 (['1', '2'] ++ [' '] ++ ('+' :: [' ']) ++ (['3'] ++ [])) :=
    .more twelve Blank.space Blank.space (.last three Blank.nil)
  have spelled : Chain 1 (Source.ofInput "12 + 3").text.toList := chain
  exact ⟨chain, (parseNested_sum spelled 16).1 (by decide),
    (parseNested_sum spelled 15).2 (by decide)⟩

end PegText.Language.Expression
