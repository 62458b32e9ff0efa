import PegText.Text.Category

/-!
Quoted text, the form in which messages and listings show characters: the quotation mark, the
backslash and the usual controls get a short escape, and what would not show by itself is
written as its code point.
-/

namespace PegText.Quoted

def isHidden (c : Char) : Bool :=
  if c.toNat < 0x7f then c.toNat < 0x20
  else isGraphemeExtend c || !isGraphic c

def codePoint (c : Char) : List Char :=
  '\\' :: 'u' :: '\x7b' :: (Nat.toDigits 16 c.toNat ++ ['\x7d'])

def escape (mark c : Char) : List Char :=
  if c = mark then ['\\', mark]
  else if c = '\\' then ['\\', '\\']
  else if c = '\n' then ['\\', 'n']
  else if c = '\r' then ['\\', 'r']
  else if c = '\t' then ['\\', 't']
  else if c = '\x00' then ['\\', '0']
  else if isHidden c then codePoint c
  else [c]

def encode (text : List Char) : List Char :=
  '"' :: (text.flatMap (escape '"') ++ ['"'])

def text (content : String) : String :=
  String.ofList (encode content.toList)

def character (c : Char) : String :=
  String.ofList ('\'' :: (escape '\'' c ++ ['\'']))

end PegText.Quoted
