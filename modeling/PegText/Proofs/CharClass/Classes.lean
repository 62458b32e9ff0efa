import PegText.CharClass.Reader
import PegText.Proofs.CharClass.Ascii

/-!
The sets behind the character classes of the languages. A class that is a single set is read as a
pattern between anchors, and such a pattern accepts the set.
-/

namespace PegText.CharClass

def single (accepts : Char → Bool) : Pattern :=
  .choice
    [.sequence
      [.place Flags.initial.lineStart, .choice [.sequence [.one accepts]],
        .place Flags.initial.lineEnd]]

theorem accepts_single (accepts : Char → Bool) (c : Char) : (single accepts).accepts c = accepts c := by
  cases known : accepts c <;>
    simp [single, Pattern.accepts, Pattern.reaches, Pattern.reachesAll, Pattern.reachesAny, known,
      Flags.lineStart, Flags.lineEnd, Flags.initial]

def accepted (text : String) : Char → Bool :=
  match read text with
  | .ok accepts => accepts
  | .error _ => fun _ => false

theorem accepted_of_single {text : String} {accepts : Char → Bool}
    (parsed : readPattern (anchored text) = .ok (single accepts)) : accepted text = accepts := by
  rw [accepted, read, parsed]
  exact funext (accepts_single accepts)

theorem accepted_space : accepted "\\s" = isWhiteSpace := by
  have parsed : readPattern (anchored "\\s") = .ok (single fun c => isWhiteSpace c != false) := by
    with_unfolding_all rfl
  rw [accepted_of_single parsed]
  simp

theorem accepted_digit : accepted "[0-9]" = isAsciiDigit := by
  have parsed : readPattern (anchored "[0-9]") =
      .ok (single fun c => (false || within '0' '9' c) != false) := by
    with_unfolding_all rfl
  rw [accepted_of_single parsed]
  simp only [Bool.false_or, Bool.bne_false]
  rfl

theorem accepted_letter : accepted "[a-z_]" = isIdentifierLetter := by
  have parsed : readPattern (anchored "[a-z_]") =
      .ok (single fun c => ((false || within 'a' 'z' c) || c == '_') != false) := by
    with_unfolding_all rfl
  rw [accepted_of_single parsed]
  simp only [Bool.false_or, Bool.bne_false]
  rfl

def isInline (c : Char) : Bool := c == ' ' || c == '\t'

def isWordChar (c : Char) : Bool := !(isInline c || c == '\r' || c == '\n')

def isNameChar (c : Char) : Bool := isWordChar c && !(c == '(' || c == ')')

def isBareChar (c : Char) : Bool :=
  !(isWhiteSpace c || c == ',' || c == '(' || c == ')' || c == '\'' || c == '"')

def isKeyChar (c : Char) : Bool := isBareChar c && c != ':'

theorem accepted_inline : accepted "[ \t]" = isInline := by
  have parsed : readPattern (anchored "[ \t]") =
      .ok (single fun c => ((false || c == ' ') || c == '\t') != false) := by
    with_unfolding_all rfl
  rw [accepted_of_single parsed]
  simp only [Bool.false_or, Bool.bne_false]
  rfl

theorem accepted_word : accepted "[^ \\t\\r\\n]" = isWordChar := by
  have parsed : readPattern (anchored "[^ \\t\\r\\n]") =
      .ok (single fun c =>
        ((((false || c == ' ') || c == '\t') || c == '\r') || c == '\n') != true) := by
    with_unfolding_all rfl
  rw [accepted_of_single parsed]
  simp only [Bool.false_or, Bool.bne_true]
  rfl

theorem accepted_name : accepted "[^ \\t\\r\\n()]" = isNameChar := by
  have parsed : readPattern (anchored "[^ \\t\\r\\n()]") =
      .ok (single fun c =>
        ((((((false || c == ' ') || c == '\t') || c == '\r') || c == '\n') || c == '(') ||
          c == ')') != true) := by
    with_unfolding_all rfl
  rw [accepted_of_single parsed]
  funext c
  simp only [isNameChar, isWordChar, isInline, Bool.false_or, Bool.bne_true, Bool.not_or,
    Bool.and_assoc]

theorem accepted_bare : accepted "[^\\s,()'\"]" = isBareChar := by
  have parsed : readPattern (anchored "[^\\s,()'\"]") =
      .ok (single fun c =>
        ((((((false || isWhiteSpace c != false) || c == ',') || c == '(') || c == ')') ||
          c == '\'') || c == '"') != true) := by
    with_unfolding_all rfl
  rw [accepted_of_single parsed]
  simp only [Bool.false_or, Bool.bne_true, Bool.bne_false]
  rfl

theorem accepted_key : accepted "[^\\s:(),'\"]" = isKeyChar := by
  have parsed : readPattern (anchored "[^\\s:(),'\"]") =
      .ok (single fun c =>
        (((((((false || isWhiteSpace c != false) || c == ':') || c == '(') || c == ')') ||
          c == ',') || c == '\'') || c == '"') != true) := by
    with_unfolding_all rfl
  rw [accepted_of_single parsed]
  funext c
  have others : (c != ':') = !(c == ':') := rfl
  simp only [isKeyChar, isBareChar, others, Bool.false_or, Bool.bne_true, Bool.bne_false,
    Bool.not_or]
  ac_rfl

theorem isBareChar_colon : isBareChar ':' = true := by
  simp [isBareChar, @not_isWhiteSpace_of_isGraphic ':' (by decide)]

theorem isWordChar_of_isNameChar {c : Char} (isName : isNameChar c = true) :
    isWordChar c = true := by
  rw [isNameChar, Bool.and_eq_true] at isName
  exact isName.1

theorem isBareChar_of_isKeyChar {c : Char} (isKey : isKeyChar c = true) : isBareChar c = true := by
  rw [isKeyChar, Bool.and_eq_true] at isKey
  exact isKey.1

theorem isKeyChar_of_isAsciiDigit {c : Char} (isDigit : isAsciiDigit c = true) :
    isKeyChar c = true := by
  have isNot {sign : Char} : isAsciiDigit sign = false → c ≠ sign := ne_of_isAsciiDigit isDigit
  simp [isKeyChar, isBareChar, not_isWhiteSpace_of_isAsciiDigit isDigit, @isNot ',' (by decide),
    @isNot '(' (by decide), @isNot ')' (by decide), @isNot '\'' (by decide),
    @isNot '"' (by decide), @isNot ':' (by decide)]

theorem isBareChar_of_isAsciiDigit {c : Char} (isDigit : isAsciiDigit c = true) :
    isBareChar c = true :=
  isBareChar_of_isKeyChar (isKeyChar_of_isAsciiDigit isDigit)

theorem isWhiteSpace_of_isInline {c : Char} (inline : isInline c = true) : isWhiteSpace c = true := by
  rw [isInline, Bool.or_eq_true, beq_iff_eq, beq_iff_eq] at inline
  rcases inline with rfl | rfl <;> exact isWhiteSpace_of_ascii (by decide)

theorem not_isWhiteSpace_of_isBareChar {c : Char} (isBare : isBareChar c = true) :
    isWhiteSpace c = false := by
  cases space : isWhiteSpace c with
  | false => rfl
  | true => simp [isBareChar, space] at isBare

def isHashKeyChar (c : Char) : Bool := !(isWhiteSpace c || c == ':')

theorem accepted_hashKey : accepted "[^\\s:]" = isHashKeyChar := by
  have parsed : readPattern (anchored "[^\\s:]") =
      .ok (single fun c => ((false || isWhiteSpace c != false) || c == ':') != true) := by
    with_unfolding_all rfl
  rw [accepted_of_single parsed]
  simp only [Bool.false_or, Bool.bne_true, Bool.bne_false]
  rfl

theorem not_isWhiteSpace_of_isHashKeyChar {c : Char} (isKey : isHashKeyChar c = true) :
    isWhiteSpace c = false := by
  cases space : isWhiteSpace c with
  | false => rfl
  | true => simp [isHashKeyChar, space] at isKey

end PegText.CharClass
