import PegText.Datum

/-!
Data written as JSON, on one line or indented. A variant is an object with the variant's name as
its only key.
-/

namespace PegText.Json

def escape (c : Char) : List Char :=
  if c = '"' then ['\\', '"']
  else if c = '\\' then ['\\', '\\']
  else if c = '\n' then ['\\', 'n']
  else if c = '\r' then ['\\', 'r']
  else if c = '\t' then ['\\', 't']
  else if c = '\x08' then ['\\', 'b']
  else if c = '\x0c' then ['\\', 'f']
  else if c.toNat < 0x20 then
    ['\\', 'u', '0', '0', Nat.digitChar (c.toNat / 16), Nat.digitChar (c.toNat % 16)]
  else [c]

def string (text : String) : String :=
  String.ofList ('"' :: (text.toList.flatMap escape ++ ['"']))

mutual

def compact : Datum → String
  | .null => "null"
  | .int number => toString number
  | .str text => string text
  | .list items => "[" ++ ",".intercalate (compactItems items) ++ "]"
  | .map entries => "\x7b" ++ ",".intercalate (compactEntries entries) ++ "\x7d"
  | .variant name content => "\x7b" ++ string name ++ ":" ++ compact content ++ "\x7d"

def compactItems : List Datum → List String
  | [] => []
  | item :: rest => compact item :: compactItems rest

def compactEntries : List (String × Datum) → List String
  | [] => []
  | (name, content) :: rest => (string name ++ ":" ++ compact content) :: compactEntries rest

end

def newLine (level : Nat) : String :=
  "\n" ++ String.ofList (List.replicate (2 * level) ' ')

def block (level : Nat) (opening closing : String) (parts : List String) : String :=
  if parts.isEmpty then opening ++ closing
  else
    opening ++ newLine (level + 1) ++ ("," ++ newLine (level + 1)).intercalate parts ++
      newLine level ++ closing

mutual

def indented (level : Nat) : Datum → String
  | .null => "null"
  | .int number => toString number
  | .str text => string text
  | .list items => block level "[" "]" (indentedItems (level + 1) items)
  | .map entries => block level "\x7b" "\x7d" (indentedEntries (level + 1) entries)
  | .variant name content =>
      block level "\x7b" "\x7d" [string name ++ ": " ++ indented (level + 1) content]

def indentedItems (level : Nat) : List Datum → List String
  | [] => []
  | item :: rest => indented level item :: indentedItems level rest

def indentedEntries (level : Nat) : List (String × Datum) → List String
  | [] => []
  | (name, content) :: rest =>
      (string name ++ ": " ++ indented level content) :: indentedEntries level rest

end

def pretty (datum : Datum) : String := indented 0 datum

end PegText.Json
