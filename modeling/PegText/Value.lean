import PegText.Text.Quoted

/-!
Values, the results of evaluation. Strings are quoted where they are items of a list.
-/

namespace PegText

inductive Value
  | nil
  | int (number : Int64)
  | str (text : String)
  | list (items : List Value)

namespace Value

def kind : Value → String
  | nil => "nil"
  | int _ => "integer"
  | str _ => "string"
  | list _ => "list"

def isNil : Value → Bool
  | nil => true
  | _ => false

def int? : Value → Option Int64
  | int number => some number
  | _ => none

mutual

def displayItem : Value → String
  | nil => "nil"
  | int number => toString number.toInt
  | str text => Quoted.text text
  | list items => "[" ++ ", ".intercalate (displayItems items) ++ "]"

def displayItems : List Value → List String
  | [] => []
  | item :: rest => item.displayItem :: displayItems rest

end

def display : Value → String
  | str text => text
  | value => value.displayItem

mutual

def beq : Value → Value → Bool
  | nil, nil => true
  | int first, int second => first == second
  | str first, str second => first == second
  | list first, list second => beqItems first second
  | _, _ => false

def beqItems : List Value → List Value → Bool
  | [], [] => true
  | first :: rest, second :: rest' => first.beq second && beqItems rest rest'
  | _, _ => false

end

instance : BEq Value := ⟨beq⟩

end Value

def checkedSum? (first second : Int64) : Option Int64 :=
  let sum := first.toInt + second.toInt
  if Int64.minValue.toInt ≤ sum ∧ sum ≤ Int64.maxValue.toInt then some (Int64.ofInt sum) else none

end PegText
