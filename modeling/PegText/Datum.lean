import PegText.Expr
import PegText.Tree
import PegText.Value

/-!
Plain data, the common ground of all that can be written out as JSON or YAML.
-/

namespace PegText

inductive Datum
  | null
  | int (number : Int)
  | str (text : String)
  | list (items : List Datum)
  | map (entries : List (String × Datum))
  | variant (name : String) (content : Datum)

namespace Capture

mutual

def datum : Capture → Datum
  | atom slice => .str slice.text
  | tagged name content => .map [(name, content.datum)]
  | record entries => .map (datumEntries entries)
  | list items => .list (datumItems items)

def datumEntries : List (String × Capture) → List (String × Datum)
  | [] => []
  | (name, content) :: rest => (name, content.datum) :: datumEntries rest

def datumItems : List Capture → List Datum
  | [] => []
  | item :: rest => item.datum :: datumItems rest

end

end Capture

namespace Tree

variable {α : Type}

mutual

def datum (ofValue : α → Datum) : Tree α → Datum
  | atom slice => .str slice.text
  | value content => ofValue content
  | record entries => .map (datumEntries ofValue entries)
  | list items => .list (datumItems ofValue items)

def datumEntries (ofValue : α → Datum) : List (String × Tree α) → List (String × Datum)
  | [] => []
  | (name, tree) :: rest => (name, tree.datum ofValue) :: datumEntries ofValue rest

def datumItems (ofValue : α → Datum) : List (Tree α) → List Datum
  | [] => []
  | tree :: rest => tree.datum ofValue :: datumItems ofValue rest

end

end Tree

namespace Value

mutual

def datum : Value → Datum
  | nil => .null
  | int number => .int number.toInt
  | str text => .str text
  | list items => .list (datumItems items)

def datumItems : List Value → List Datum
  | [] => []
  | item :: rest => item.datum :: datumItems rest

end

end Value

namespace Expr

mutual

def datum : Expr → Datum
  | int number => .variant "IntLiteral" (.int number.toInt)
  | str text => .variant "StrLiteral" (.str text)
  | add left right =>
      .variant "Addition" (.map [("left", left.datum), ("right", right.datum)])
  | call name arguments =>
      .variant "FunctionCall"
        (.map [("name", .str name), ("args", .list (datumItems arguments))])

def datumItems : List Expr → List Datum
  | [] => []
  | item :: rest => item.datum :: datumItems rest

end

end Expr

def Span.datum (span : Span) : Datum := .map [("start", .int span.start), ("end", .int span.stop)]

end PegText
