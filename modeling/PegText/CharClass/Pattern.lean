/-!
Patterns of a character class. A class is tried on a text of exactly one character, so a match
is a way from the place in front of that character, or behind it, to one of the two again.
-/

namespace PegText.CharClass

inductive Pattern
  | one (accepts : Char → Bool)
  | place (holds : Option Char → Option Char → Bool)
  | sequence (parts : List Pattern)
  | choice (branches : List Pattern)
  | repetition (inner : Pattern) (least : Nat) (most : Option Nat)

namespace Pattern

mutual

def reaches (c : Char) : Pattern → Bool → Bool → Bool
  | one accepts, start, stop => !start && stop && accepts c
  | place holds, start, stop =>
      start == stop && (if start then holds (some c) none else holds none (some c))
  | sequence parts, start, stop => reachesAll c parts start stop
  | choice branches, start, stop => reachesAny c branches start stop
  | repetition inner least most, start, stop =>
      if most = some 0 then start == stop
      else if start = stop then least == 0 || inner.reaches c start stop
      else
        inner.reaches c start stop &&
          (least ≤ 1 || inner.reaches c start start || inner.reaches c stop stop)

def reachesAll (c : Char) : List Pattern → Bool → Bool → Bool
  | [], start, stop => start == stop
  | part :: parts, start, stop =>
      (part.reaches c start false && reachesAll c parts false stop) ||
        (part.reaches c start true && reachesAll c parts true stop)

def reachesAny (c : Char) : List Pattern → Bool → Bool → Bool
  | [], _, _ => false
  | branch :: branches, start, stop =>
      branch.reaches c start stop || reachesAny c branches start stop

end

def accepts (pattern : Pattern) (c : Char) : Bool :=
  [false, true].any fun start => [false, true].any fun stop => pattern.reaches c start stop

end Pattern

end PegText.CharClass
