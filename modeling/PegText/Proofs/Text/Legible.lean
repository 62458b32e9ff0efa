import PegText.Proofs.Language.Tokens
import PegText.Proofs.Text.Integer

/-!
Written forms that can be read in one way only. A written form tells what it means and where it ends,
whatever stands behind it, only not a digit, which would go on a number.
-/

namespace PegText

open CharClass (isAsciiDigit)
open PegText.Language (Clear Numeral run_unique)

/-- Whatever else begins the same text means the same and ends at the same place. -/
def Legible {α β : Type} (write : α → List Char) (meaning : α → β) (value : α) : Prop :=
  ∀ ⦃other rest behind⦄, Clear isAsciiDigit rest → Clear isAsciiDigit behind →
    write value ++ rest = write other ++ behind → meaning value = meaning other ∧ rest = behind

theorem Legible.eq_of_write {α β : Type} {write : α → List Char} {meaning : α → β} {value other : α}
    (legible : Legible write meaning value) (same : write value = write other) :
    meaning value = meaning other := by
  have ended : write value ++ [] = write other ++ [] := by rw [same]
  exact (legible .nil .nil ended).1

namespace Integer

theorem toList_toString (number : Int) :
    (toString number).toList =
      (if number < 0 then ['-'] else []) ++ Nat.toDigits 10 number.natAbs := by
  rcases number with magnitude | less
  · exact Nat.toList_repr
  · have written : toString (Int.negSucc less) = "-" ++ Nat.repr (less + 1) := rfl
    rw [written, String.toList_append, Nat.toList_repr, if_pos (Int.negSucc_lt_zero less)]
    rfl

theorem legible_toDigits (magnitude : Nat) : Legible (Nat.toDigits 10) id magnitude := by
  intro other rest behind clear clear' same
  obtain ⟨sameDigits, sameRest⟩ := run_unique (fun _ => isAsciiDigit_of_mem_toDigits) clear
    (fun _ => isAsciiDigit_of_mem_toDigits) clear' same
  have back := decimal_toDigits magnitude
  rw [sameDigits, decimal_toDigits] at back
  exact ⟨back.symm, sameRest⟩

theorem numeral_toDigits (magnitude : Nat) : Numeral (Nat.toDigits 10 magnitude) :=
  ⟨Nat.toDigits_ne_nil, fun _ => isAsciiDigit_of_mem_toDigits⟩

theorem toDigits_ne_minus {magnitude : Nat} {rest behind : List Char} :
    Nat.toDigits 10 magnitude ++ rest ≠ '-' :: behind := by
  intro same
  obtain ⟨c, first, isDigit⟩ := @Numeral.head _ rest (numeral_toDigits magnitude)
  rw [same] at first
  cases first
  revert isDigit
  decide

theorem legible (number : Int) :
    Legible (fun number : Int => (toString number).toList) id number := by
  intro other rest behind clear clear' same
  have sameNumber (sameSign : number < 0 ↔ other < 0)
      (sameDigits : Nat.toDigits 10 number.natAbs ++ rest = Nat.toDigits 10 other.natAbs ++ behind) :
      number = other ∧ rest = behind := by
    obtain ⟨sameSize, sameRest⟩ := legible_toDigits _ clear clear' sameDigits
    have sizes : number.natAbs = other.natAbs := sameSize
    exact ⟨by omega, sameRest⟩
  simp only [toList_toString, List.append_assoc] at same
  by_cases negative : number < 0 <;> by_cases negative' : other < 0
  · rw [if_pos negative, if_pos negative'] at same
    exact sameNumber (iff_of_true negative negative') (List.cons.inj same).2
  · rw [if_pos negative, if_neg negative'] at same
    exact (toDigits_ne_minus same.symm).elim
  · rw [if_neg negative, if_pos negative'] at same
    exact (toDigits_ne_minus same).elim
  · rw [if_neg negative, if_neg negative'] at same
    exact sameNumber (iff_of_false negative negative') same

end Integer

inductive Form
  | word
  | number
  | text
  | list
  | record
  deriving DecidableEq

namespace Form

def of? (c : Char) : Option Form :=
  if c = 'n' then some word
  else if c = '"' then some text
  else if c = '[' then some list
  else if c = '\x7b' then some record
  else if c = '-' ∨ isAsciiDigit c = true then some number
  else none

theorem of?_digit {c : Char} (isDigit : isAsciiDigit c = true) : of? c = some number := by
  have other {d : Char} (noDigit : isAsciiDigit d = false) : c ≠ d := by
    rintro rfl
    rw [isDigit] at noDigit
    cases noDigit
  rw [of?, if_neg (other (by decide)), if_neg (other (by decide)), if_neg (other (by decide)),
    if_neg (other (by decide)), if_pos (.inr isDigit)]

end Form

def BeginsAs (form : Form) (text : List Char) : Prop :=
  text.head?.bind Form.of? = some form

namespace BeginsAs

variable {form form' : Form} {text text' rest behind : List Char}

theorem cons {c : Char} (known : Form.of? c = some form) : BeginsAs form (c :: text) :=
  known

theorem exists_cons (begins : BeginsAs form text) :
    ∃ c tail, text = c :: tail ∧ Form.of? c = some form := by
  cases text with
  | nil => cases begins
  | cons c tail => exact ⟨c, tail, rfl, begins⟩

theorem unique (begins : BeginsAs form text) (begins' : BeginsAs form' text')
    (same : text ++ rest = text' ++ behind) : form = form' := by
  obtain ⟨c, tail, rfl, known⟩ := begins.exists_cons
  obtain ⟨d, tail', rfl, known'⟩ := begins'.exists_cons
  obtain ⟨rfl, -⟩ := List.cons.inj same
  exact Option.some.inj (known.symm.trans known')

theorem ne_cons {c : Char} (begins : BeginsAs form text) (none : Form.of? c = none) :
    text ++ rest ≠ c :: behind := by
  obtain ⟨d, tail, rfl, known⟩ := begins.exists_cons
  intro same
  obtain ⟨rfl, -⟩ := List.cons.inj same
  rw [none] at known
  cases known

theorem toString_int (number : Int) : BeginsAs .number (toString number).toList := by
  rw [Integer.toList_toString]
  split
  · exact cons (by decide)
  · obtain ⟨c, first, isDigit⟩ := @Numeral.head _ [] (Integer.numeral_toDigits number.natAbs)
    rw [List.append_nil] at first
    rw [BeginsAs, List.nil_append, first]
    exact Form.of?_digit isDigit

end BeginsAs

end PegText
