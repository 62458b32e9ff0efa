import PegText.Diagnostic
import PegText.Entries
import PegText.Value

/-!
Built-in functions and the registries that hold them.
-/

namespace PegText

abbrev Builtin := List Value → List String × Except Diagnostic Value

namespace Builtin

def silent (function : List Value → Value) : Builtin := fun arguments =>
  ([], .ok (function arguments))

def puts : Builtin := fun arguments =>
  (arguments.map Value.display, .ok (.list arguments))

end Builtin

abbrev Registry := List (String × Builtin)

namespace Registry

def standard : Registry := [("puts", Builtin.puts)]

def find? (registry : Registry) (name : String) : Option Builtin := Entries.lookup name registry

def has (registry : Registry) (name : String) : Bool := (registry.find? name).isSome

def register (registry : Registry) (name : String) (builtin : Builtin) : Registry :=
  Entries.insert name builtin registry

def remove (registry : Registry) (name : String) : Bool × Registry :=
  (registry.has name, Entries.erase name registry)

def names (registry : Registry) : List String := Entries.names registry

end Registry

end PegText
