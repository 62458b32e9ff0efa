import PegText.CharClass.Named

/-!
ASCII characters: which of them are blanks is found by trying them, so that digits, letters and signs
are apart from the blanks.
-/

namespace PegText.CharClass

theorem forall_ascii {holds : Char → Prop} (low : ∀ code < 128, holds (Char.ofNat code)) {c : Char}
    (ascii : c.toNat < 128) : holds c := by
  have here := low c.toNat ascii
  rwa [Char.ofNat_toNat] at here

theorem isWhiteSpace_of_ascii {c : Char} (ascii : c.toNat < 128) :
    isWhiteSpace c = (c == ' ' || within '\t' '\r' c) :=
  @forall_ascii (fun c => isWhiteSpace c = (c == ' ' || within '\t' '\r' c)) (by decide +kernel) c
    ascii

theorem within_iff {first last c : Char} :
    within first last c = true ↔ first.toNat ≤ c.toNat ∧ c.toNat ≤ last.toNat := by
  rw [within, Bool.and_eq_true, decide_eq_true_eq, decide_eq_true_eq]
  rfl

def isGraphic (c : Char) : Bool := within '!' '~' c

theorem isGraphic_of_within {first last c : Char} (inside : within first last c = true)
    (low : isGraphic first = true) (high : isGraphic last = true) : isGraphic c = true := by
  rw [isGraphic, within_iff] at low high ⊢
  rw [within_iff] at inside
  omega

theorem not_isWhiteSpace_of_isGraphic {c : Char} (graphic : isGraphic c = true) :
    isWhiteSpace c = false := by
  have low : 33 ≤ c.toNat ∧ c.toNat ≤ 126 := within_iff.mp graphic
  have notSpace : c ≠ ' ' := by
    rintro rfl
    revert low
    decide
  have notControl : ¬(9 ≤ c.toNat ∧ c.toNat ≤ 13) := by omega
  rw [isWhiteSpace_of_ascii (by omega), Bool.or_eq_false_iff, beq_eq_false_iff_ne,
    Bool.eq_false_iff]
  exact ⟨notSpace, mt within_iff.mp notControl⟩

theorem not_isWhiteSpace_of_isAsciiDigit {c : Char} (isDigit : isAsciiDigit c = true) :
    isWhiteSpace c = false :=
  not_isWhiteSpace_of_isGraphic (isGraphic_of_within isDigit (by decide) (by decide))

theorem not_isAsciiDigit_of_isWhiteSpace {c : Char} (space : isWhiteSpace c = true) :
    isAsciiDigit c = false := by
  cases isDigit : isAsciiDigit c with
  | false => rfl
  | true =>
      rw [not_isWhiteSpace_of_isAsciiDigit isDigit] at space
      cases space

def isIdentifierLetter (c : Char) : Bool := within 'a' 'z' c || c == '_'

theorem not_isWhiteSpace_of_isIdentifierLetter {c : Char}
    (isLetter : isIdentifierLetter c = true) : isWhiteSpace c = false := by
  refine not_isWhiteSpace_of_isGraphic ?_
  rw [isIdentifierLetter, Bool.or_eq_true, beq_iff_eq] at isLetter
  rcases isLetter with inside | rfl
  · exact isGraphic_of_within inside (by decide) (by decide)
  · decide

theorem not_isIdentifierLetter_of_isAsciiDigit {c : Char} (isDigit : isAsciiDigit c = true) :
    isIdentifierLetter c = false := by
  have low : 48 ≤ c.toNat ∧ c.toNat ≤ 57 := within_iff.mp isDigit
  have notLetter : ¬(97 ≤ c.toNat ∧ c.toNat ≤ 122) := by omega
  have notSign : c ≠ '_' := by
    rintro rfl
    revert low
    decide
  rw [isIdentifierLetter, Bool.or_eq_false_iff, beq_eq_false_iff_ne, Bool.eq_false_iff]
  exact ⟨mt within_iff.mp notLetter, notSign⟩

theorem ne_of_isAsciiDigit {c other : Char} (isDigit : isAsciiDigit c = true)
    (notDigit : isAsciiDigit other = false) : c ≠ other := by
  rintro rfl
  rw [isDigit] at notDigit
  cases notDigit

end PegText.CharClass
