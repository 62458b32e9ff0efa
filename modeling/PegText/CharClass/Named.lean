import PegText.Text.Category
import PegText.Text.CaseFolding

/-!
The sets of characters that a class can name: digits, blanks and words, the bracketed names such
as `alpha`, and the general categories.
-/

namespace PegText.CharClass

def within (first last c : Char) : Bool := first ≤ c && c ≤ last

def isAsciiDigit (c : Char) : Bool := within '0' '9' c

def isAsciiLetter (c : Char) : Bool := within 'a' 'z' c || within 'A' 'Z' c

def isAsciiWord (c : Char) : Bool := isAsciiLetter c || isAsciiDigit c || c == '_'

def isAsciiSpace (c : Char) : Bool := c == ' ' || within '\t' '\r' c

def shorthand? (unicode : Bool) : Char → Option (Char → Bool)
  | 'd' => some (if unicode then Category.decimalNumbers.contains else isAsciiDigit)
  | 's' => some (if unicode then isWhiteSpace else isAsciiSpace)
  | 'w' => some (if unicode then isWordCharacter else isAsciiWord)
  | _ => none

def bracketed? (name : String) : Option (Char → Bool) :=
  List.lookup name
    [("alnum", fun c => isAsciiLetter c || isAsciiDigit c),
     ("alpha", isAsciiLetter),
     ("ascii", fun c => c.toNat < 0x80),
     ("blank", fun c => c == ' ' || c == '\t'),
     ("cntrl", fun c => c.toNat < 0x20 || c.toNat == 0x7f),
     ("digit", isAsciiDigit),
     ("graph", within '!' '~'),
     ("lower", within 'a' 'z'),
     ("print", within ' ' '~'),
     ("punct", fun c => within '!' '~' c && !isAsciiLetter c && !isAsciiDigit c),
     ("space", isAsciiSpace),
     ("upper", within 'A' 'Z'),
     ("word", isAsciiWord),
     ("xdigit", fun c => isAsciiDigit c || within 'a' 'f' c || within 'A' 'F' c)]

def canonicalName (name : String) : String :=
  let letters := (name.toList.filter fun c => !(isWhiteSpace c || c == '_' || c == '-')).map
    Char.toLower
  match letters with
  | 'i' :: 's' :: rest => if rest.isEmpty then String.ofList letters else String.ofList rest
  | _ => String.ofList letters

def bearsName (name : String) (category : Category) : Bool :=
  canonicalName category.names.1 == name || canonicalName category.names.2 == name

def categoryGroups : List (String × Char) :=
  [("l", 'L'), ("letter", 'L'), ("m", 'M'), ("mark", 'M'), ("combiningmark", 'M'), ("n", 'N'),
   ("number", 'N'), ("p", 'P'), ("punct", 'P'), ("punctuation", 'P'), ("s", 'S'),
   ("symbol", 'S'), ("z", 'Z'), ("separator", 'Z'), ("c", 'C'), ("other", 'C')]

def ofCategories (chosen : Category → Bool) (c : Char) : Bool :=
  Category.all.any fun category => chosen category && category.contains c

def category? (name : String) : Option (Char → Bool) :=
  let name := canonicalName name
  match categoryGroups.lookup name with
  | some letter => some (ofCategories fun category => category.names.1.toList.head? == some letter)
  | none =>
      if name == "any" then some fun _ => true
      else if name == "ascii" then some fun c => c.toNat < 0x80
      else if name == "assigned" then some fun c => !Category.unassigned.contains c
      else if name == "lc" || name == "casedletter" then
        some (ofCategories fun category =>
          [.uppercaseLetter, .lowercaseLetter, .titlecaseLetter].contains category)
      else if name == "digit" then some Category.decimalNumbers.contains
      else if name == "cntrl" then some Category.controls.contains
      else (Category.all.find? (bearsName name)).map Category.contains

def property? (name : String) : Option (Char → Bool) :=
  if ["whitespace", "wspace", "space"].contains (canonicalName name) then some isWhiteSpace
  else category? name

def foldCase (accepts : Char → Bool) (c : Char) : Bool :=
  (CaseFolding.variants c).any accepts

end PegText.CharClass
