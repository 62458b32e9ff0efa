/-!
Expressions: sums of integers and calls of functions.
-/

namespace PegText

inductive Expr
  | int (number : Int64)
  | str (text : String)
  | add (left right : Expr)
  | call (name : String) (arguments : List Expr)

namespace Expr

mutual

/-- The expression as source text. Sums get no parentheses and strings no escapes. -/
def pretty : Expr → String
  | int number => toString number.toInt
  | str text => "'" ++ text ++ "'"
  | add left right => left.pretty ++ " + " ++ right.pretty
  | call name arguments => name ++ "(" ++ ", ".intercalate (prettyAll arguments) ++ ")"

def prettyAll : List Expr → List String
  | [] => []
  | expr :: rest => expr.pretty :: prettyAll rest

end

mutual

def beq : Expr → Expr → Bool
  | int first, int second => first == second
  | str first, str second => first == second
  | add left right, add left' right' => left.beq left' && right.beq right'
  | call name arguments, call name' arguments' => name == name' && beqAll arguments arguments'
  | _, _ => false

def beqAll : List Expr → List Expr → Bool
  | [], [] => true
  | first :: rest, second :: rest' => first.beq second && beqAll rest rest'
  | _, _ => false

end

instance : BEq Expr := ⟨beq⟩

mutual

def height : Expr → Nat
  | int _ | str _ => 1
  | add left right => max left.height right.height + 1
  | call _ arguments => heightOfAll arguments + 1

def heightOfAll : List Expr → Nat
  | [] => 0
  | expr :: rest => max expr.height (heightOfAll rest)

end

end Expr

end PegText
