import PegText.Datum.Yaml.Resolution

/-!
How YAML writes a text: plain where that is possible, between quotes, or as a literal block.
-/

namespace PegText.Yaml

def isBreak (c : Char) : Bool :=
  c == '\n' || c == '\r' || c == '\u0085' || c == '\u2028' || c == '\u2029'

def isGap (c : Option Char) : Bool :=
  match c with
  | none => true
  | some c => c == ' ' || c == '\t' || c == '\x00' || isBreak c

def isPrintable (c : Char) : Bool :=
  let code := c.toNat
  code == 0x0a || (0x20 ≤ code && code ≤ 0x7e) ||
    (0xa0 ≤ code && code != 0xfeff && code != 0xfffe && code != 0xffff)

def isIndicator (c : Char) : Bool :=
  "#,[]\x7b\x7d&*!|>'\"%@`".toList.contains c

def hasInnerIndicators (before : Char) : List Char → Bool
  | [] => false
  | c :: rest =>
      (c == ':' && isGap rest.head?) || (c == '#' && isGap (some before)) ||
        hasInnerIndicators c rest

def hasIndicators (text : List Char) : Bool :=
  "---".toList.isPrefixOf text || "...".toList.isPrefixOf text ||
    match text with
    | [] => false
    | c :: rest =>
        isIndicator c || ((c == '?' || c == ':' || c == '-') && isGap rest.head?) ||
          hasInnerIndicators c rest

def hasNeighbours (related : Char → Char → Bool) : List Char → Bool
  | first :: second :: rest => related first second || hasNeighbours related (second :: rest)
  | _ => false

inductive Style
  | plain
  | singleQuoted
  | doubleQuoted
  | literal
  deriving DecidableEq

structure Allowed where
  plain : Bool
  singleQuoted : Bool
  literal : Bool

def Allowed.ofText (text : List Char) : Allowed :=
  let outer (c : Option Char) : Bool := c.any fun c => c == ' ' || isBreak c
  let breakSpace := hasNeighbours (fun first second => isBreak first && second == ' ') text
  let spaceBreak := hasNeighbours (fun first second => first == ' ' && isBreak second) text
  let special := spaceBreak || text.any (!isPrintable ·)
  { plain :=
      !special && !breakSpace && !outer text.head? && !outer text.getLast? &&
        !text.any isBreak && !hasIndicators text
    singleQuoted := !special && !breakSpace
    literal := !special && text.getLast? != some ' ' }

def styleOf (text : String) : Style :=
  let allowed := Allowed.ofText text.toList
  if text.toList.contains '\n' then
    if allowed.literal then .literal else .doubleQuoted
  else if !readsOtherwise text && allowed.plain then .plain
  else if allowed.singleQuoted then .singleQuoted
  else .doubleQuoted

def padding (width : Nat) : List Char := List.replicate width ' '

def singleQuoteInner (indent : Nat) (atStart : Bool) : List Char → List Char
  | [] => if atStart then padding indent else []
  | c :: rest =>
      if isBreak c then c :: singleQuoteInner indent true rest
      else
        (if atStart then padding indent else []) ++
          (if c = '\'' then ['\'', '\''] else [c]) ++ singleQuoteInner indent false rest

def singleQuote (indent : Nat) (text : List Char) : List Char :=
  '\'' :: (singleQuoteInner indent false text ++ ['\''])

def hexadecimal (width code : Nat) : List Char :=
  let digits := (Nat.toDigits 16 code).map Char.toUpper
  List.replicate (width - digits.length) '0' ++ digits

def doubleQuoteChar (c : Char) : List Char :=
  let shorthands : List (Char × Char) :=
    [('\x00', '0'), ('\x07', 'a'), ('\x08', 'b'), ('\t', 't'), ('\n', 'n'), ('\x0b', 'v'),
     ('\x0c', 'f'), ('\r', 'r'), ('\x1b', 'e'), ('"', '"'), ('\\', '\\'), ('\u0085', 'N'),
     ('\u2028', 'L'), ('\u2029', 'P')]
  match shorthands.lookup c with
  | some letter => ['\\', letter]
  | none =>
      if isPrintable c then [c]
      else if c.toNat ≤ 0xff then '\\' :: 'x' :: hexadecimal 2 c.toNat
      else if c.toNat ≤ 0xffff then '\\' :: 'u' :: hexadecimal 4 c.toNat
      else '\\' :: 'U' :: hexadecimal 8 c.toNat

def literalHints (text : List Char) : List Char :=
  let indentation := if text.head?.any fun c => c == ' ' || isBreak c then ['2'] else []
  let chomping :=
    match text.reverse with
    | [] => ['-']
    | [_] => ['+']
    | last :: before :: _ =>
        if !isBreak last then ['-'] else if isBreak before then ['+'] else []
  indentation ++ chomping

def literalLines (indent : Nat) (atStart : Bool) : List Char → List Char
  | [] => if atStart then [] else ['\n']
  | c :: rest =>
      if isBreak c then c :: literalLines indent true rest
      else (if atStart then padding indent else []) ++ c :: literalLines indent false rest

def doubleQuote (text : List Char) : List Char :=
  '"' :: (text.flatMap doubleQuoteChar ++ ['"'])

def scalarLine (indent : Nat) (text : String) : String :=
  let characters := text.toList
  String.ofList <|
    match styleOf text with
    | .plain => characters ++ ['\n']
    | .singleQuoted => singleQuote indent characters ++ ['\n']
    | .doubleQuoted => doubleQuote characters ++ ['\n']
    | .literal => '|' :: (literalHints characters ++ '\n' :: literalLines indent true characters)

def keyText (text : String) : String :=
  let characters := text.toList
  String.ofList <|
    match styleOf text with
    | .plain | .literal => characters
    | .singleQuoted => singleQuote 0 characters
    | .doubleQuoted => doubleQuote characters

def isSimpleKey (text : String) : Bool :=
  text.utf8ByteSize ≤ 128 && !text.toList.any isBreak

end PegText.Yaml
