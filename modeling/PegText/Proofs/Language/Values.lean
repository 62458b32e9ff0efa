import PegText.Proofs.Language.Argument

/-!
Values, which several languages write in the same way: text in quotes, or digits. What their rules
match is shown here for every table that has such rules.
-/

namespace PegText.Language

open CharClass (isAsciiDigit)
open Language.Directive (Literal)
open Node RuleTable

variable {cursor next : Cursor} {output : Output}

def Directive.FoundLiteral (cursor : Cursor) (value : Literal) (output : Output)
    (next : Cursor) : Prop :=
  ∃ text entries, cursor.Passes text next ∧ value.Spells text ∧ output = .fields entries ∧
    value.Pictures (Output.fields entries).toCapture

open Language.Directive (FoundLiteral)

theorem Directive.Literal.Spells.head {value : Literal} {text : List Char}
    (spells : value.Spells text) :
    ∃ c tail, text = c :: tail ∧ (c = '\'' ∨ c = '"' ∨ isAsciiDigit c = true) := by
  cases spells with
  | @str quote content isQuote =>
      refine ⟨quote, content ++ [quote], rfl, ?_⟩
      rcases isQuote with same | same
      · exact .inl same
      · exact .inr (.inl same)
  | int numeral =>
      cases text with
      | nil => exact (numeral.1 rfl).elim
      | cons c tail => exact ⟨c, tail, rfl, .inr (.inr (numeral.2 c List.mem_cons_self))⟩

theorem not_isWhiteSpace_of_head {c : Char} (head : c = '\'' ∨ c = '"' ∨ isAsciiDigit c = true) :
    isWhiteSpace c = false := by
  rcases head with rfl | rfl | isDigit
  · exact CharClass.not_isWhiteSpace_of_isGraphic (by decide)
  · exact CharClass.not_isWhiteSpace_of_isGraphic (by decide)
  · exact CharClass.not_isWhiteSpace_of_isAsciiDigit isDigit

theorem Directive.Literal.Spells.clear {value : Literal} {text : List Char}
    (spells : value.Spells text) (rest : List Char) : Clear isWhiteSpace (text ++ rest) := by
  obtain ⟨c, tail, rfl, head⟩ := spells.head
  exact Clear.cons (not_isWhiteSpace_of_head head)

structure ValueRules {size : Nat} (rules : RuleTable size) (string integer value : Fin size) :
    Prop where
  quotes : ∃ first second, first ≠ second ∧
    (∀ quote, quote = first ∨ quote = second ↔ quote = '\'' ∨ quote = '"') ∧
      (rules.get string).body = choice [quotedNode first, quotedNode second]
  digits : (rules.get integer).body = digitsNode
  either : (rules.get value).body = choice [rule string, rule integer]

namespace ValueRules

variable {size : Nat} {rules : RuleTable size} {string integer value : Fin size}
  (values : ValueRules rules string integer value)

include values

theorem of_string (found : rules.Matches (.rule string) cursor output next) :
    ∃ content, FoundLiteral cursor (.str content) output next := by
  obtain ⟨first, second, -, quotes, body⟩ := values.quotes
  rw [matches_rule, body] at found
  obtain ⟨quote, content, slice, isQuote, outside, passes, sameText, rfl⟩ := string_matches found
  exact ⟨content, _, _, passes, .str ((quotes quote).mp isQuote) outside, rfl, .str sameText⟩

theorem of_integer (found : rules.Matches (.rule integer) cursor output next) :
    ∃ digits, FoundLiteral cursor (.int digits) output next := by
  rw [matches_rule, values.digits] at found
  obtain ⟨digits, taken, filled, rfl⟩ := matches_digits.mp found
  exact ⟨digits, _, _, taken.passes, .int ⟨filled, taken.all⟩, rfl,
    .int ⟨filled, taken.all⟩ (text_sliceTo taken.passes)⟩

theorem of_value (found : rules.Matches (.rule value) cursor output next) :
    ∃ literal, FoundLiteral cursor literal output next := by
  rw [matches_rule, values.either] at found
  rcases matches_choice_cons.mp found with string | ⟨-, later⟩
  · obtain ⟨_, found⟩ := values.of_string string
    exact ⟨_, found⟩
  · rcases matches_choice_cons.mp later with integer | ⟨-, none⟩
    · obtain ⟨_, found⟩ := values.of_integer integer
      exact ⟨_, found⟩
    · exact (matches_choice_nil none).elim

theorem matches_str {quote : Char} {content : List Char} (isQuote : quote = '\'' ∨ quote = '"')
    (outside : quote ∉ content) (passes : cursor.Passes (quote :: (content ++ [quote])) next) :
    ∃ entries, rules.Matches (.rule string) cursor (.fields entries) next ∧
      (Literal.str content).Pictures (Output.fields entries).toCapture := by
  obtain ⟨first, second, different, quotes, body⟩ := values.quotes
  obtain ⟨slice, sameText, found⟩ :=
    matches_string different ((quotes quote).mpr isQuote) outside passes
  refine ⟨[("string", .atom slice)], ?_, .str sameText⟩
  rw [matches_rule, body]
  exact found

theorem matches_int {digits : List Char} (numeral : Numeral digits)
    (passes : cursor.Passes digits next) (clear : Clear isAsciiDigit next.rest) :
    ∃ entries, rules.Matches (.rule integer) cursor (.fields entries) next ∧
      (Literal.int digits).Pictures (Output.fields entries).toCapture := by
  refine ⟨[("int", .atom (cursor.sliceTo next))], ?_, .int numeral (text_sliceTo passes)⟩
  rw [matches_rule, values.digits]
  exact matches_digits.mpr ⟨digits, ⟨passes, numeral.2, clear⟩, numeral.1, rfl⟩

theorem fails_str {c : Char} (begins : cursor.rest.head? = some c) (single : c ≠ '\'')
    (double : c ≠ '"') : rules.Fails (.rule string) cursor := by
  obtain ⟨first, second, -, quotes, body⟩ := values.quotes
  have isNot {quote : Char} (among : quote = first ∨ quote = second) : c ≠ quote := by
    rintro rfl
    exact ((quotes c).mp among).elim single double
  rw [fails_rule, body]
  exact fails_string (by simpa [begins] using isNot (.inl rfl))
    (by simpa [begins] using isNot (.inr rfl))

theorem fails_int (clear : Clear isAsciiDigit cursor.rest) :
    rules.Fails (.rule integer) cursor := by
  rw [fails_rule, values.digits]
  exact fails_digits.mpr clear

theorem matches_value {literal : Literal} {text : List Char} (spells : literal.Spells text)
    (passes : cursor.Passes text next) (clear : Clear isAsciiDigit next.rest) :
    ∃ entries, rules.Matches (.rule value) cursor (.fields entries) next ∧
      literal.Pictures (Output.fields entries).toCapture := by
  simp only [matches_rule, values.either]
  cases spells with
  | str isQuote outside =>
      obtain ⟨entries, found, pictures⟩ := values.matches_str isQuote outside passes
      exact ⟨entries, matches_choice_cons.mpr (.inl found), pictures⟩
  | int numeral =>
      obtain ⟨entries, found, pictures⟩ := values.matches_int numeral passes clear
      obtain ⟨c, begins, isDigit⟩ := numeral.head
      rw [← passes.rest] at begins
      have single : c ≠ '\'' := by
        rintro rfl
        revert isDigit
        decide
      have double : c ≠ '"' := by
        rintro rfl
        revert isDigit
        decide
      exact ⟨entries, matches_choice_cons.mpr
        (.inr ⟨values.fails_str begins single double, matches_choice_cons.mpr (.inl found)⟩),
        pictures⟩

end ValueRules

end PegText.Language
