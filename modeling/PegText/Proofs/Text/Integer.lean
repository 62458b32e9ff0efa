import PegText.CharClass.Named
import PegText.Text.Integer

/-!
Reading a number that is written with digits only: it is read exactly if it is in range.
-/

namespace PegText.Integer

open CharClass (isAsciiDigit within)

def digit (c : Char) : Nat := c.toNat - 48

def decimalFrom (value : Nat) (digits : List Char) : Nat :=
  digits.foldl (fun value c => value * 10 + digit c) value

def decimal (digits : List Char) : Nat := decimalFrom 0 digits

def number? (digits : List Char) : Option Int64 :=
  if (decimal digits : Int) ≤ Int64.maxValue.toInt then some (.ofInt (decimal digits)) else none

theorem digit?_of_isAsciiDigit {c : Char} (isDigit : isAsciiDigit c = true) :
    digit? c = some (digit c) := by
  rw [isAsciiDigit, within, Bool.and_eq_true, decide_eq_true_eq, decide_eq_true_eq] at isDigit
  rw [digit?, if_pos isDigit, digit]

theorem le_decimalFrom (value : Nat) (digits : List Char) : value ≤ decimalFrom value digits := by
  induction digits generalizing value with
  | nil => exact Nat.le_refl value
  | cons c rest ih =>
      have further := ih (value * 10 + digit c)
      rw [decimalFrom, List.foldl_cons]
      rw [decimalFrom] at further
      omega

theorem readDigits_eq {lower upper : Int} (below : lower ≤ 0) {digits : List Char}
    (all : ∀ c ∈ digits, isAsciiDigit c = true) {value : Nat} (inRange : (value : Int) ≤ upper) :
    readDigits lower upper false value digits =
      if (decimalFrom value digits : Int) ≤ upper then .ok (decimalFrom value digits)
      else .error .tooLarge := by
  induction digits generalizing value with
  | nil => rw [readDigits, decimalFrom, List.foldl_nil, if_pos inRange]
  | cons c rest ih =>
      obtain ⟨here, behind⟩ := List.forall_mem_cons.mp all
      have next : (value : Int) * 10 + (digit c : Int) = ((value * 10 + digit c : Nat) : Int) := by
        omega
      rw [readDigits, digit?_of_isAsciiDigit here]
      simp only [Bool.false_eq_true, if_false]
      rw [next, if_neg (by omega)]
      have final := le_decimalFrom (value * 10 + digit c) rest
      have more : decimalFrom value (c :: rest) = decimalFrom (value * 10 + digit c) rest := rfl
      rw [more]
      split
      next beyond => rw [if_neg (by omega)]
      next fits => exact ih behind (by omega)

theorem read_eq {digits : List Char} (filled : digits ≠ [])
    (all : ∀ c ∈ digits, isAsciiDigit c = true) :
    read (.ofList digits) =
      match number? digits with
      | some number => .ok number
      | none => .error .tooLarge := by
  have signed : readSigned Int64.minValue.toInt Int64.maxValue.toInt digits =
      readDigits Int64.minValue.toInt Int64.maxValue.toInt false (0 : Nat) digits := by
    rw [readSigned.eq_def]
    split
    · exact (filled rfl).elim
    · exact absurd (all _ List.mem_cons_self) (by decide)
    · exact absurd (all _ List.mem_cons_self) (by decide)
    · exact absurd (all _ List.mem_cons_self) (by decide)
    · exact absurd (all _ List.mem_cons_self) (by decide)
    · rfl
  rw [read, String.toList_ofList, signed, readDigits_eq (by decide) all (by decide), number?,
    decimal]
  split <;> rfl

theorem decimal_toDigits (number : Nat) : decimal (Nat.toDigits 10 number) = number := by
  have same : decimalFrom 0 (Nat.toDigits 10 number) =
      Nat.ofDigitChars 10 (Nat.toDigits 10 number) 0 := by
    simp only [decimalFrom, Nat.ofDigitChars, digit, Nat.mul_comm]
    rfl
  rw [decimal, same, Nat.ofDigitChars_ten_toDigits]

theorem isAsciiDigit_of_isDigit {c : Char} (isDigit : c.isDigit = true) :
    isAsciiDigit c = true := by
  simpa [Char.isDigit, isAsciiDigit, within, Char.le_def] using isDigit

theorem isAsciiDigit_of_mem_toDigits {c : Char} {magnitude : Nat}
    (member : c ∈ Nat.toDigits 10 magnitude) : isAsciiDigit c = true :=
  isAsciiDigit_of_isDigit (Nat.isDigit_of_mem_toDigits (by decide) (by decide) member)

theorem exists_toDigits {number : Int} (natural : 0 ≤ number) :
    ∃ magnitude : Nat, number = magnitude ∧
      (toString number).toList = Nat.toDigits 10 magnitude := by
  obtain ⟨magnitude, rfl⟩ := Int.eq_ofNat_of_zero_le natural
  exact ⟨magnitude, rfl, Nat.toList_repr⟩

theorem digits_toString {number : Int} (natural : 0 ≤ number) :
    (toString number).toList ≠ [] ∧ ∀ c ∈ (toString number).toList, isAsciiDigit c = true := by
  obtain ⟨magnitude, -, written⟩ := exists_toDigits natural
  rw [written]
  exact ⟨Nat.toDigits_ne_nil, fun _ => isAsciiDigit_of_mem_toDigits⟩

theorem number?_toString {number : Int64} (natural : 0 ≤ number.toInt) :
    number? (toString number.toInt).toList = some number := by
  obtain ⟨magnitude, same, written⟩ := exists_toDigits natural
  have inRange := number.toInt_le
  have back := number.ofInt_toInt
  rw [same] at inRange back
  rw [written, number?, decimal_toDigits, if_pos inRange, back]

end PegText.Integer
