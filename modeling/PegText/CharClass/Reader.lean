import PegText.CharClass.Pattern
import PegText.CharClass.Named

/-!
Reading the text of a character class. The notation is that of common regular expressions
without back references and look-around: sets in brackets with nesting and set operators, groups
with flags, alternatives, repetitions and tests of a place. Of the properties that a class may
name, scripts, ages and most of the binary ones are unknown here, and neither the size of a class
nor its nesting is limited.
-/

namespace PegText.CharClass

inductive Error
  | unexpectedEnd
  | unclosedGroup
  | unopenedGroup
  | unclosedSet
  | missingOperand
  | invalidCount
  | invalidRange
  | invalidItem
  | invalidEscape
  | invalidCodePoint
  | invalidFlag
  | invalidGroupName
  | unknownProperty
  | lookAround
  | notText
  deriving DecidableEq

def Error.message : Error → String
  | unexpectedEnd => "unexpected end of pattern"
  | unclosedGroup => "unclosed group"
  | unopenedGroup => "unopened group"
  | unclosedSet => "unclosed character set"
  | missingOperand => "repetition operator missing expression"
  | invalidCount => "invalid repetition count"
  | invalidRange => "invalid character set range"
  | invalidItem => "invalid item in character set"
  | invalidEscape => "unrecognized escape sequence"
  | invalidCodePoint => "escape is not a character"
  | invalidFlag => "invalid flags"
  | invalidGroupName => "invalid group name"
  | unknownProperty => "unknown property"
  | lookAround => "look-around is not supported"
  | notText => "pattern can match invalid UTF-8"

structure Flags where
  ignoreCase : Bool
  manyLines : Bool
  dotAll : Bool
  anyLineEnd : Bool
  unicode : Bool
  ignoreBlanks : Bool

def Flags.initial : Flags := ⟨false, false, false, false, true, false⟩

def Flags.set? (flags : Flags) (letter : Char) (value : Bool) : Option Flags :=
  match letter with
  | 'i' => some { flags with ignoreCase := value }
  | 'm' => some { flags with manyLines := value }
  | 's' => some { flags with dotAll := value }
  | 'R' => some { flags with anyLineEnd := value }
  | 'u' => some { flags with unicode := value }
  | 'x' => some { flags with ignoreBlanks := value }
  | 'U' => some flags
  | _ => none

def dropBlanks (inComment : Bool) : List Char → List Char
  | [] => []
  | c :: rest =>
      if inComment then dropBlanks (c != '\n') rest
      else if isWhiteSpace c then dropBlanks false rest
      else if c = '#' then dropBlanks true rest
      else c :: rest

def Flags.skip (flags : Flags) (text : List Char) : List Char :=
  if flags.ignoreBlanks then dropBlanks false text else text

inductive Item
  | literal (c : Char)
  | set (accepts : Char → Bool)
  | place (holds : Option Char → Option Char → Bool)

def hexDigit? (c : Char) : Option Nat :=
  if within '0' '9' c then some (c.toNat - 48)
  else if within 'a' 'f' c then some (c.toNat - 87)
  else if within 'A' 'F' c then some (c.toNat - 55)
  else none

def hexValue? (digits : List Char) : Option Nat :=
  if digits.isEmpty then none
  else digits.foldl
    (fun value c => value.bind fun high => (hexDigit? c).map fun low => 16 * high + low) (some 0)

def charAt (code : Nat) : Except Error Char :=
  if code.isValidChar then .ok (Char.ofNat code) else .error .invalidCodePoint

def takeCount (flags : Flags) : Nat → List Char → Except Error (List Char × List Char)
  | 0, text => .ok ([], text)
  | _ + 1, [] => .error .unexpectedEnd
  | count + 1, c :: rest => do
      let (taken, rest) ← takeCount flags count (flags.skip rest)
      return (c :: taken, rest)

def takeBraced (flags : Flags) : Nat → List Char → Except Error (List Char × List Char)
  | 0, _ => .error .unexpectedEnd
  | fuel + 1, text =>
      match flags.skip text with
      | [] => .error .unexpectedEnd
      | '\x7d' :: rest => .ok ([], rest)
      | c :: rest => do
          let (taken, rest) ← takeBraced flags fuel rest
          return (c :: taken, rest)

def readCodePoint (flags : Flags) (width : Nat) (text : List Char) :
    Except Error (Item × List Char) := do
  let (digits, rest) ←
    match flags.skip text with
    | '\x7b' :: rest => takeBraced flags (rest.length + 1) rest
    | text => takeCount flags width text
  match hexValue? digits with
  | none => .error .invalidCodePoint
  | some code =>
      if !flags.unicode && width == 2 && digits.length == 2 && 0x80 ≤ code then .error .notText
      else return (.literal (← charAt code), rest)

def cutAt (separator : List Char) : List Char → Option (List Char × List Char)
  | [] => none
  | c :: rest =>
      match separator.isPrefixOf? (c :: rest) with
      | some behind => some ([], behind)
      | none => (cutAt separator rest).map fun parts => (c :: parts.1, parts.2)

def namedProperty? (name : List Char) : Option (Char → Bool) :=
  let ofPair (parts : List Char × List Char) : Option (Char → Bool) :=
    if ["gc", "generalcategory"].contains (canonicalName (String.ofList parts.1)) then
      category? (String.ofList parts.2)
    else none
  match cutAt ['!', '='] name with
  | some parts => (ofPair parts).map fun accepts c => !accepts c
  | none =>
      match (cutAt [':'] name).or (cutAt ['='] name) with
      | some parts => ofPair parts
      | none => property? (String.ofList name)

def readProperty (flags : Flags) (negated : Bool) (text : List Char) :
    Except Error (Item × List Char) := do
  let (name, rest) ←
    match flags.skip text with
    | '\x7b' :: rest => takeBraced flags (rest.length + 1) rest
    | '\\' :: _ => .error .unknownProperty
    | text => takeCount flags 1 text
  if !flags.unicode then .error .notText
  else
    match namedProperty? name with
    | none => .error .unknownProperty
    | some accepts =>
        let folded := if flags.ignoreCase then foldCase accepts else accepts
        return (.set fun c => folded c != negated, rest)

def Flags.wordAt (flags : Flags) (c : Option Char) : Bool :=
  c.any (if flags.unicode then isWordCharacter else isAsciiWord)

def Flags.boundary? (flags : Flags) (name : String) :
    Option (Option Char → Option Char → Bool) :=
  List.lookup name
    [("start", fun before after => !flags.wordAt before && flags.wordAt after),
     ("end", fun before after => flags.wordAt before && !flags.wordAt after),
     ("start-half", fun before _ => !flags.wordAt before),
     ("end-half", fun _ after => !flags.wordAt after)]

def readBoundary (flags : Flags) (text : List Char) : Except Error (Item × List Char) :=
  let plain : Except Error (Item × List Char) :=
    .ok (.place fun before after => flags.wordAt before != flags.wordAt after, text)
  match text with
  | '\x7b' :: rest =>
      let name := (flags.skip rest).takeWhile fun c => isAsciiLetter c || c == '-'
      match (flags.skip rest).drop name.length, flags.boundary? (String.ofList name) with
      | '\x7d' :: rest, some holds => .ok (.place holds, rest)
      | '\x7d' :: _, none => if name.isEmpty then plain else .error .invalidEscape
      | _, _ => if name.isEmpty then plain else .error .invalidEscape
  | _ => plain

def metaCharacters : List Char := "\\.+*?()|[]\x7b\x7d^$#&-~".toList

def readEscape (flags : Flags) : List Char → Except Error (Item × List Char)
  | [] => .error .unexpectedEnd
  | c :: rest =>
      if isAsciiDigit c then .error .invalidEscape
      else if c = 'x' then readCodePoint flags 2 rest
      else if c = 'u' then readCodePoint flags 4 rest
      else if c = 'U' then readCodePoint flags 8 rest
      else if c = 'p' then readProperty flags false rest
      else if c = 'P' then readProperty flags true rest
      else
        match shorthand? flags.unicode c.toLower with
        | some accepts => .ok (.set fun other => accepts other != c.isUpper, rest)
        | none =>
            match c with
            | 'a' => .ok (.literal '\x07', rest)
            | 'f' => .ok (.literal '\x0c', rest)
            | 't' => .ok (.literal '\t', rest)
            | 'n' => .ok (.literal '\n', rest)
            | 'r' => .ok (.literal '\r', rest)
            | 'v' => .ok (.literal '\x0b', rest)
            | 'A' => .ok (.place fun before _ => before.isNone, rest)
            | 'z' => .ok (.place fun _ after => after.isNone, rest)
            | 'b' => readBoundary flags rest
            | 'B' =>
                .ok (.place fun before after => flags.wordAt before == flags.wordAt after, rest)
            | '<' =>
                .ok (.place fun before after => !flags.wordAt before && flags.wordAt after, rest)
            | '>' =>
                .ok (.place fun before after => flags.wordAt before && !flags.wordAt after, rest)
            | _ =>
                if c.toNat < 0x80 && !isAsciiLetter c then .ok (.literal c, rest)
                else .error .invalidEscape

/-! Sets in brackets, inside one another and combined by operators. -/

def Flags.oneOf (flags : Flags) (accepts : Char → Bool) : Except Error Pattern :=
  if flags.unicode then .ok (.one accepts)
  else if (List.range 0x80).any fun low => accepts (Char.ofNat (0x80 + low)) then .error .notText
  else .ok (.one fun c => c.toNat < 0x80 && accepts c)

def Flags.fold (flags : Flags) (accepts : Char → Bool) : Char → Bool :=
  if !flags.ignoreCase then accepts
  else if flags.unicode then foldCase accepts
  else fun c => accepts c || accepts c.toLower || accepts c.toUpper

inductive SetOperator
  | intersection
  | difference
  | symmetricDifference

def SetOperator.apply : SetOperator → (Char → Bool) → (Char → Bool) → Char → Bool
  | intersection, left, right, c => left c && right c
  | difference, left, right, c => left c && !right c
  | symmetricDifference, left, right, c => left c != right c

abbrev Pending := Option (SetOperator × (Char → Bool))

def Flags.settle (flags : Flags) (pending : Pending) (union : Char → Bool) : Char → Bool :=
  match pending with
  | none => union
  | some (operator, left) => operator.apply (flags.fold left) (flags.fold union)

def readBracketed? (flags : Flags) : List Char → Option ((Char → Bool) × List Char)
  | ':' :: text =>
      let (negated, text) :=
        match text with
        | '^' :: rest => (true, rest)
        | _ => (false, text)
      let name := text.takeWhile (· != ':')
      match text.drop name.length, bracketed? (String.ofList name) with
      | ':' :: ']' :: rest, some accepts =>
          some (fun c => flags.fold accepts c != negated, rest)
      | _, _ => none
  | _ => none

def readDashes (flags : Flags) (seen : Bool) : Nat → List Char → Bool × List Char
  | 0, text => (seen, text)
  | fuel + 1, text =>
      match text with
      | '-' :: rest => readDashes flags true fuel (flags.skip rest)
      | _ => (seen, text)

def readSetHead (flags : Flags) (text : List Char) : Bool × (Char → Bool) × List Char :=
  let (negated, text) :=
    match flags.skip text with
    | '^' :: rest => (true, flags.skip rest)
    | text => (false, text)
  let (dashed, text) := readDashes flags false text.length text
  match dashed, text with
  | false, ']' :: rest => (negated, (· == ']'), flags.skip rest)
  | _, _ => (negated, fun c => dashed && c == '-', text)

def readSetItem (flags : Flags) : List Char → Except Error (Item × List Char)
  | [] => .error .unclosedSet
  | '\\' :: rest => readEscape flags rest
  | c :: rest =>
      if !flags.unicode && 0x80 ≤ c.toNat then .error .notText else .ok (.literal c, rest)

def readRange (flags : Flags) (text : List Char) : Except Error ((Char → Bool) × List Char) := do
  let (first, rest) ← readSetItem flags text
  let single : Except Error ((Char → Bool) × List Char) :=
    match first with
    | .literal c => .ok ((· == c), flags.skip rest)
    | .set accepts => .ok (accepts, flags.skip rest)
    | .place _ => .error .invalidItem
  match flags.skip rest with
  | [] => .error .unclosedSet
  | '-' :: behind =>
      match flags.skip behind with
      | ']' :: _ | '-' :: _ => single
      | [] => .error .unclosedSet
      | behind =>
          let (last, rest) ← readSetItem flags behind
          match first, last with
          | .literal low, .literal high =>
              if low ≤ high then .ok (within low high, rest) else .error .invalidRange
          | _, _ => .error .invalidItem
  | _ => single

def readSet (flags : Flags) :
    Nat → Pending → (Char → Bool) → List Char → Except Error ((Char → Bool) × List Char)
  | 0, _, _, _ => .error .unclosedSet
  | fuel + 1, pending, union, text =>
      match flags.skip text with
      | [] => .error .unclosedSet
      | ']' :: rest => .ok (flags.settle pending union, rest)
      | '[' :: rest =>
          match readBracketed? flags rest with
          | some (accepts, rest) =>
              readSet flags fuel pending (fun c => union c || accepts c) rest
          | none => do
              let (negated, start, rest) := readSetHead flags rest
              let (inner, rest) ← readSet flags fuel none start rest
              readSet flags fuel pending (fun c => union c || flags.fold inner c != negated) rest
      | '&' :: '&' :: rest =>
          readSet flags fuel (some (.intersection, flags.settle pending union))
            (fun _ => false) rest
      | '-' :: '-' :: rest =>
          readSet flags fuel (some (.difference, flags.settle pending union)) (fun _ => false) rest
      | '~' :: '~' :: rest =>
          readSet flags fuel (some (.symmetricDifference, flags.settle pending union))
            (fun _ => false) rest
      | text => do
          let (accepts, rest) ← readRange flags text
          readSet flags fuel pending (fun c => union c || accepts c) rest

def readBracket (flags : Flags) (text : List Char) : Except Error (Pattern × List Char) := do
  let (negated, start, rest) := readSetHead flags text
  let (accepts, rest) ← readSet flags (text.length + 1) none start rest
  return (← flags.oneOf fun c => flags.fold accepts c != negated, rest)

/-! Groups and repetitions. Flags that are set in a group hold up to its end. -/

def readFlags (seen : List Char) (negated dangling : Bool) (flags : Flags) :
    List Char → Except Error ((Flags × Char) × List Char)
  | [] => .error .unexpectedEnd
  | c :: rest =>
      if c = ':' ∨ c = ')' then
        if dangling ∨ (seen.isEmpty ∧ c = ')') then .error .invalidFlag
        else .ok ((flags, c), rest)
      else if seen.contains c then .error .invalidFlag
      else if c = '-' then readFlags (c :: seen) true true flags rest
      else
        match flags.set? c !negated with
        | some flags => readFlags (c :: seen) negated false flags rest
        | none => .error .invalidFlag

def isNameCharacter (first : Bool) (c : Char) : Bool :=
  c == '_' || isLetter c ||
    (!first && (c == '.' || c == '[' || c == ']' || Category.decimalNumbers.contains c ||
      Category.letterNumbers.contains c || Category.otherNumbers.contains c))

def readGroupName (names : List String) (text : List Char) :
    Except Error (List String × List Char) :=
  let name := text.takeWhile (· != '>')
  match text.drop name.length with
  | [] => .error .unexpectedEnd
  | _ :: rest =>
      let wellFormed :=
        match name with
        | [] => false
        | first :: others => isNameCharacter true first && others.all (isNameCharacter false)
      if !wellFormed || names.contains (String.ofList name) then .error .invalidGroupName
      else .ok (String.ofList name :: names, rest)

inductive GroupHead
  | flags (flags : Flags)
  | group (flags : Flags) (names : List String)

def readGroupHead (flags : Flags) (names : List String) :
    List Char → Except Error (GroupHead × List Char)
  | '?' :: '=' :: _ | '?' :: '!' :: _ | '?' :: '<' :: '=' :: _ | '?' :: '<' :: '!' :: _ =>
      .error .lookAround
  | '?' :: 'P' :: '<' :: rest | '?' :: '<' :: rest => do
      let (names, rest) ← readGroupName names rest
      return (.group flags names, rest)
  | '?' :: rest => do
      let ((inner, stop), rest) ← readFlags [] false false flags rest
      return (if stop = ')' then .flags inner else .group inner names, rest)
  | text => .ok (.group flags names, text)

def readCount (flags : Flags) (text : List Char) : Except Error (Nat × List Char) :=
  let text := text.dropWhile isWhiteSpace
  let digits := text.takeWhile isAsciiDigit
  let value := digits.foldl (fun value c => 10 * value + (c.toNat - 48)) 0
  if digits.isEmpty || UInt32.size ≤ value then .error .invalidCount
  else .ok (value, flags.skip ((text.drop digits.length).dropWhile isWhiteSpace))

def readCounts (flags : Flags) (text : List Char) :
    Except Error ((Nat × Option Nat) × List Char) := do
  let (least, rest) ← readCount flags (flags.skip text)
  let (most, rest) ←
    match rest with
    | ',' :: rest =>
        match flags.skip rest with
        | '\x7d' :: _ => pure (none, flags.skip rest)
        | rest => do
            let (most, rest) ← readCount flags rest
            pure (some most, rest)
    | _ => pure (some least, rest)
  match rest with
  | '\x7d' :: rest =>
      if most.any (· < least) then .error .invalidCount else .ok ((least, most), flags.skip rest)
  | _ => .error .invalidCount

def dropLazyMark : List Char → List Char
  | '?' :: rest => rest
  | text => text

def Flags.literal (flags : Flags) (c : Char) : Pattern :=
  if !flags.unicode && 0x80 ≤ c.toNat then .one (· == c) else .one (flags.fold (· == c))

def Flags.item (flags : Flags) : Item → Except Error Pattern
  | .literal c => .ok (flags.literal c)
  | .set accepts => flags.oneOf accepts
  | .place holds => .ok (.place holds)

def Flags.dot (flags : Flags) : Except Error Pattern :=
  flags.oneOf fun c =>
    flags.dotAll || !(c == '\n' || (flags.anyLineEnd && c == '\r'))

def Flags.lineStart (flags : Flags) (before after : Option Char) : Bool :=
  before.isNone ||
    (flags.manyLines &&
      (before == some '\n' || (flags.anyLineEnd && before == some '\r' && after != some '\n')))

def Flags.lineEnd (flags : Flags) (before after : Option Char) : Bool :=
  after.isNone ||
    (flags.manyLines &&
      (if flags.anyLineEnd then
        after == some '\r' || (after == some '\n' && before != some '\r')
      else after == some '\n'))

structure Group where
  branches : List Pattern
  parts : List Pattern
  repeatable : Bool

namespace Group

def empty : Group := ⟨[], [], false⟩

def add (group : Group) (part : Pattern) : Group :=
  { group with parts := part :: group.parts, repeatable := true }

def nextBranch (group : Group) : Group :=
  ⟨.sequence group.parts.reverse :: group.branches, [], false⟩

def pattern (group : Group) : Pattern := .choice group.nextBranch.branches.reverse

def repeatLast (group : Group) (least : Nat) (most : Option Nat) : Except Error Group :=
  match group.repeatable, group.parts with
  | true, part :: parts => .ok { group with parts := .repetition part least most :: parts }
  | _, _ => .error .missingOperand

end Group

def readGroup : Nat → Flags → List String → Group → List Char →
    Except Error ((Pattern × List String) × List Char)
  | 0, _, _, _, _ => .error .unexpectedEnd
  | fuel + 1, flags, names, group, text =>
      match flags.skip text with
      | [] => .ok ((group.pattern, names), [])
      | ')' :: rest => .ok ((group.pattern, names), ')' :: rest)
      | '|' :: rest => readGroup fuel flags names group.nextBranch rest
      | '(' :: rest => do
          match ← readGroupHead flags names (flags.skip rest) with
          | (.flags inner, rest) =>
              readGroup fuel inner names { group with repeatable := false } rest
          | (.group inner names, rest) =>
              match ← readGroup fuel inner names .empty rest with
              | ((pattern, names), ')' :: rest) =>
                  readGroup fuel flags names (group.add pattern) rest
              | _ => .error .unclosedGroup
      | '[' :: rest => do
          let (pattern, rest) ← readBracket flags rest
          readGroup fuel flags names (group.add pattern) rest
      | '?' :: rest => do
          readGroup fuel flags names (← group.repeatLast 0 (some 1)) (dropLazyMark rest)
      | '*' :: rest => do
          readGroup fuel flags names (← group.repeatLast 0 none) (dropLazyMark rest)
      | '+' :: rest => do
          readGroup fuel flags names (← group.repeatLast 1 none) (dropLazyMark rest)
      | '\x7b' :: rest => do
          let ((least, most), rest) ← readCounts flags rest
          readGroup fuel flags names (← group.repeatLast least most) (dropLazyMark rest)
      | '.' :: rest => do readGroup fuel flags names (group.add (← flags.dot)) rest
      | '^' :: rest => readGroup fuel flags names (group.add (.place flags.lineStart)) rest
      | '$' :: rest => readGroup fuel flags names (group.add (.place flags.lineEnd)) rest
      | '\\' :: rest => do
          let (item, rest) ← readEscape flags rest
          readGroup fuel flags names (group.add (← flags.item item)) rest
      | c :: rest => readGroup fuel flags names (group.add (flags.literal c)) rest

def readPattern (text : List Char) : Except Error Pattern := do
  match ← readGroup (text.length + 1) .initial [] .empty text with
  | ((pattern, _), []) => return pattern
  | _ => .error .unopenedGroup

def anchored (text : String) : List Char :=
  "^(?:".toList ++ text.toList ++ ")$".toList

/-- What reads the text of a class: the characters it accepts, or why it is none. -/
abbrev Reader := String → Except Error (Char → Bool)

def read (text : String) : Except Error (Char → Bool) :=
  (readPattern (anchored text)).map Pattern.accepts

end PegText.CharClass
