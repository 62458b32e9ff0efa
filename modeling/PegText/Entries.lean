/-!
Named entries, kept in the order of their names (by code points), and sets of names kept the
same way. An entry that is added replaces one of the same name.
-/

namespace PegText.Entries

variable {α : Type}

def insert (name : String) (value : α) : List (String × α) → List (String × α)
  | [] => [(name, value)]
  | entry :: rest =>
      if name < entry.1 then (name, value) :: entry :: rest
      else if name = entry.1 then (name, value) :: rest
      else entry :: insert name value rest

def ofList (entries : List (String × α)) : List (String × α) :=
  entries.foldl (fun built entry => insert entry.1 entry.2 built) []

def lookup (name : String) (entries : List (String × α)) : Option α :=
  List.lookup name entries

def contains (name : String) (entries : List (String × α)) : Bool :=
  entries.any fun entry => entry.1 == name

def erase (name : String) (entries : List (String × α)) : List (String × α) :=
  entries.filter fun entry => entry.1 != name

def names (entries : List (String × α)) : List String :=
  entries.map (·.1)

def Ordered (entries : List (String × α)) : Prop :=
  (names entries).Pairwise (· < ·)

end PegText.Entries

namespace PegText.Names

def insert (name : String) : List String → List String
  | [] => [name]
  | other :: rest =>
      if name < other then name :: other :: rest
      else if name = other then other :: rest
      else other :: insert name rest

def union (first second : List String) : List String :=
  second.foldl (fun built name => insert name built) first

end PegText.Names
