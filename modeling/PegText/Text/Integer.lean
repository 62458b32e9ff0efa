/-!
Decimal numbers of a fixed range: an optional sign, then digits. Reading stops at the first
character that is no digit or that takes the number out of its range, whichever comes first.
-/

namespace PegText.Integer

inductive Error
  | empty
  | invalidDigit
  | tooLarge
  | tooSmall
  deriving DecidableEq

def Error.message : Error → String
  | empty => "cannot parse integer from empty string"
  | invalidDigit => "invalid digit found in string"
  | tooLarge => "number too large to fit in target type"
  | tooSmall => "number too small to fit in target type"

def digit? (c : Char) : Option Nat :=
  if '0' ≤ c ∧ c ≤ '9' then some (c.toNat - 48) else none

def readDigits (lower upper : Int) (negative : Bool) (value : Int) :
    List Char → Except Error Int
  | [] => .ok value
  | c :: rest =>
      match digit? c with
      | none => .error .invalidDigit
      | some digit =>
          let next := if negative then value * 10 - digit else value * 10 + digit
          if next < lower then .error .tooSmall
          else if upper < next then .error .tooLarge
          else readDigits lower upper negative next rest

def readSigned (lower upper : Int) : List Char → Except Error Int
  | [] => .error .empty
  | ['+'] => .error .invalidDigit
  | ['-'] => .error .invalidDigit
  | '+' :: digits => readDigits lower upper false 0 digits
  | '-' :: digits => readDigits lower upper true 0 digits
  | digits => readDigits lower upper false 0 digits

def read (text : String) : Except Error Int64 :=
  (readSigned Int64.minValue.toInt Int64.maxValue.toInt text.toList).map Int64.ofInt

def readCount (text : String) : Except Error Nat :=
  match text.toList with
  | '-' :: _ => .error .invalidDigit
  | digits => (readSigned 0 (UInt64.size - 1) digits).map Int.toNat

end PegText.Integer
