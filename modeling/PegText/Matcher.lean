/-!
Matchers: uncompiled descriptions of what to match. They refer to rules by name, so rules may
refer to each other in any order. Sequences and choices that `>>>` and `|||` join are taken apart.
-/

namespace PegText

inductive Matcher
  | literal (text : String)
  | char (c : Char)
  | charClass (text : String)
  | any
  | sequence (parts : List Matcher)
  | choice (branches : List Matcher)
  /-- At least `least` rounds and at most `most`, if that is given. -/
  | repetition (inner : Matcher) (least : Nat) (most : Option Nat)
  /-- Consumes nothing, and matches where `inner` does not. -/
  | absent (inner : Matcher)
  | capture (name : String) (inner : Matcher)
  | rule (name : String)

namespace Matcher

def parts : Matcher → List Matcher
  | sequence parts => parts
  | matcher => [matcher]

def branches : Matcher → List Matcher
  | choice branches => branches
  | matcher => [matcher]

def followedBy (first second : Matcher) : Matcher :=
  sequence (first.parts ++ second.parts)

def orElse (first second : Matcher) : Matcher :=
  choice (first.branches ++ second.branches)

instance : HShiftRight Matcher Matcher Matcher := ⟨followedBy⟩

instance : HOr Matcher Matcher Matcher := ⟨orElse⟩

def inSequence : List Matcher → Matcher
  | [] => sequence []
  | first :: rest => rest.foldl followedBy first

def firstOf : List Matcher → Matcher
  | [] => choice []
  | first :: rest => rest.foldl orElse first

def atLeast (matcher : Matcher) (least : Nat) : Matcher := repetition matcher least none

def between (matcher : Matcher) (least most : Nat) : Matcher :=
  repetition matcher least (some most)

def maybe (matcher : Matcher) : Matcher := matcher.between 0 1

def named (matcher : Matcher) (name : String) : Matcher := capture name matcher

end Matcher

end PegText
