/-!
Which plain YAML scalars read as something other than text: nulls, truth values and numbers. Some
readers take digits behind needless zeros for a number.
-/

namespace PegText.Yaml

def isDigit (c : Char) : Bool := '0' ≤ c && c ≤ '9'

def digitValue? (c : Char) : Option Nat :=
  if isDigit c then some (c.toNat - 48)
  else if 'a' ≤ c && c ≤ 'f' then some (c.toNat - 87)
  else if 'A' ≤ c && c ≤ 'F' then some (c.toNat - 55)
  else none

def natural? (base : Nat) (digits : List Char) : Option Nat :=
  if digits.isEmpty then none
  else
    digits.foldl
      (fun value c => value.bind fun high => (digitValue? c).bind fun low =>
        if low < base then some (base * high + low) else none)
      (some 0)

def basedDigits : List Char → Nat × List Char
  | '0' :: 'x' :: digits => (16, digits)
  | '0' :: 'o' :: digits => (8, digits)
  | '0' :: 'b' :: digits => (2, digits)
  | digits => (10, digits)

def isZeroPadded (text : List Char) : Bool :=
  let digits :=
    match text with
    | '+' :: rest | '-' :: rest => rest
    | rest => rest
  1 < digits.length && digits.head? == some '0' && digits.all isDigit

def isInteger (text : List Char) : Bool :=
  let (digits, limit) :=
    match text with
    | '+' :: digits => (digits, 1 <<< 128 - 1)
    | '-' :: digits => (digits, 1 <<< 127)
    | digits => (digits, 1 <<< 128 - 1)
  let (base, digits) := basedDigits digits
  (natural? base digits).any (· ≤ limit)

def decimalParts? (text : List Char) : Option (List Char × List Char × Int) :=
  let whole := text.takeWhile isDigit
  let rest := text.drop whole.length
  let (fraction, rest) :=
    match rest with
    | '.' :: behind => (behind.takeWhile isDigit, behind.dropWhile isDigit)
    | _ => ([], rest)
  if whole.isEmpty && fraction.isEmpty then none
  else
    match rest with
    | [] => some (whole, fraction, 0)
    | mark :: digits =>
        if mark != 'e' && mark != 'E' then none
        else
          match digits with
          | '-' :: digits => (natural? 10 digits).map fun size => (whole, fraction, -(size : Int))
          | '+' :: digits => (natural? 10 digits).map fun size => (whole, fraction, (size : Int))
          | _ => (natural? 10 digits).map fun size => (whole, fraction, (size : Int))

def floatOverflow : Nat := 1 <<< 1024 - 1 <<< 970

def isFinite (digits : Nat) (exponent : Int) : Bool :=
  if digits = 0 then true
  else
    let size := (Nat.toDigits 10 digits).length
    if exponent + size < 300 then true
    else if 400 < exponent + size then false
    else if 0 ≤ exponent then digits * Nat.pow 10 exponent.toNat < floatOverflow
    else digits < floatOverflow * Nat.pow 10 (-exponent).toNat

def isDecimal (text : List Char) : Bool :=
  let digits :=
    match text with
    | '+' :: rest | '-' :: rest => rest
    | rest => rest
  match decimalParts? digits with
  | none => false
  | some (whole, fraction, exponent) =>
      (natural? 10 (whole ++ fraction)).any fun digits =>
        isFinite digits (exponent - fraction.length)

def specialFloats : List String :=
  [".inf", ".Inf", ".INF", "+.inf", "+.Inf", "+.INF", "-.inf", "-.Inf", "-.INF",
   ".nan", ".NaN", ".NAN"]

def constants : List String :=
  ["", "null", "Null", "NULL", "~", "true", "True", "TRUE", "false", "False", "FALSE"]

def readsOtherwise (text : String) : Bool :=
  constants.contains text || isZeroPadded text.toList || isInteger text.toList ||
    specialFloats.contains text || isDecimal text.toList

end PegText.Yaml
