import PegText.Datum
import PegText.Datum.Yaml.Scalar

/-!
Data written as YAML in block style. Maps are indented by two blanks and lists below a key not at
all; what stands in a list begins on the line of its dash. A variant is a tag in front of what it
holds.
-/

namespace PegText.Yaml

inductive Place
  | root
  | dash
  | key

def Place.mapColumn (column : Nat) : Place → Nat
  | root => 0
  | dash | key => column + 2

def Place.listColumn (column : Nat) : Place → Nat
  | root => 0
  | dash => column + 2
  | key => column

def Place.textColumn (column : Nat) : Place → Nat
  | root => 2
  | dash | key => column + 2

def pad (column : Nat) : String := String.ofList (padding column)

def Place.gap : Place → String
  | root => ""
  | dash | key => " "

def Place.lines (place : Place) (tag : Option String) (column : Nat) (parts : List String) :
    String :=
  let all := (pad column).intercalate parts
  match place, tag with
  | root, none => all
  | dash, none => " " ++ all
  | key, none => "\n" ++ pad column ++ all
  | _, some tag => place.gap ++ "!" ++ tag ++ "\n" ++ pad column ++ all

def Place.line (place : Place) (tag : Option String) (text : String) : String :=
  match tag with
  | none => place.gap ++ text
  | some tag => place.gap ++ "!" ++ tag ++ " " ++ text

mutual

def node (place : Place) (column : Nat) (tag : Option String) : Datum → String
  | .null => place.line tag "null\n"
  | .int number => place.line tag (toString number ++ "\n")
  | .str text => place.line tag (scalarLine (place.textColumn column) text)
  | .list items =>
      if items.isEmpty then place.line tag "[]\n"
      else
        let column := place.listColumn column
        place.lines tag column (itemLines column items)
  | .map entries =>
      if entries.isEmpty then place.line tag "\x7b\x7d\n"
      else
        let column := place.mapColumn column
        place.lines tag column (entryLines column entries)
  | .variant name content => node place column (some name) content

def itemLines (column : Nat) : List Datum → List String
  | [] => []
  | item :: rest => ("-" ++ node .dash column none item) :: itemLines column rest

def entryLines (column : Nat) : List (String × Datum) → List String
  | [] => []
  | (name, content) :: rest =>
      (if isSimpleKey name then keyText name ++ ":" ++ node .key column none content
      else
        "? " ++ scalarLine (column + 2) name ++ pad column ++ ":" ++
          node .dash column none content) :: entryLines column rest

end

def document (datum : Datum) : String := node .root 0 none datum

end PegText.Yaml
