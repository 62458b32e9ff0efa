import PegText.Grammar
import PegText.Parse.Output

/-!
Running a grammar on a text. A match either succeeds with a yield and the position behind it, or
fails. Failures are values: a choice answers them with its next branch, a repetition with its
end.

What is kept from one match to the next is how far the parse has come and what was expected
there, and whether it has ever nested too deeply. Once it has, every further match fails.
-/

namespace PegText

structure Failure where
  position : Nat
  expected : String
  deriving DecidableEq

inductive Outcome
  | matched (output : Output) (next : Cursor)
  | failed (failure : Failure)

structure Progress where
  /-- The last position at which something failed. -/
  furthest : Nat
  expected : List String
  lookahead : Nat
  /-- Where the nesting first went beyond the limit. -/
  exceeded : Option Nat
  deriving DecidableEq

namespace Progress

def initial : Progress := ⟨0, [], 0, none⟩

/-- Notes what was expected at a position. Inside a lookahead a failure is no surprise, and
failures in front of the furthest one tell nothing new. -/
def note (progress : Progress) (position : Nat) (expected : String) : Progress :=
  if progress.lookahead ≠ 0 ∨ position < progress.furthest then progress
  else if position = progress.furthest then
    { progress with expected := Names.insert expected progress.expected }
  else { progress with furthest := position, expected := [expected] }

def fail (progress : Progress) (cursor : Cursor) (expected : String) : Outcome × Progress :=
  (.failed ⟨cursor.offset, expected⟩, progress.note cursor.offset expected)

def exceed (progress : Progress) (cursor : Cursor) : Outcome × Progress :=
  let position := progress.exceeded.getD cursor.offset
  (.failed ⟨position, "shallower nesting"⟩, { progress with exceeded := some position })

def enterLookahead (progress : Progress) : Progress :=
  { progress with lookahead := progress.lookahead + 1 }

def leaveLookahead (progress : Progress) : Progress :=
  { progress with lookahead := progress.lookahead - 1 }

end Progress

def Failure.deeper (first : Option Failure) (second : Failure) : Failure :=
  match first with
  | none => second
  | some first => if first.position < second.position then second else first

variable {size : Nat}

namespace Node

mutual

def describe (rules : RuleTable size) : Node size → String
  | literal text => Quoted.text text
  | char c => Quoted.character c
  | charClass text _ => text
  | any => "any character"
  | rule id => (rules.get id).name
  | capture name _ => name
  | absent inner => inner.describe rules
  | repetition inner _ _ _ => inner.describe rules
  | sequence parts => describeFirst rules parts
  | choice branches => describeFirst rules branches

def describeFirst (rules : RuleTable size) : List (Node size) → String
  | [] => "nothing"
  | first :: _ => first.describe rules

end

end Node

abbrev Runner (size : Nat) := Node size → Cursor → Progress → Outcome × Progress

namespace Runner

variable (run : Runner size)

def parts : List (Node size) → Cursor → Progress →
    Except Failure (List Output × Cursor) × Progress
  | [], cursor, progress => (.ok ([], cursor), progress)
  | part :: rest, cursor, progress =>
      match run part cursor progress with
      | (.failed failure, progress) => (.error failure, progress)
      | (.matched output next, progress) =>
          match parts rest next progress with
          | (.ok (outputs, stop), progress) => (.ok (output :: outputs, stop), progress)
          | (.error failure, progress) => (.error failure, progress)

def branches (cursor : Cursor) : List (Node size) → Option Failure → Progress →
    Outcome × Progress
  | [], none, progress => progress.fail cursor "an alternative"
  | [], some deepest, progress => (.failed deepest, progress)
  | branch :: rest, deepest, progress =>
      match run branch cursor progress with
      | (.matched output next, progress) => (.matched output next, progress)
      | (.failed failure, progress) =>
          branches cursor rest (some (.deeper deepest failure)) progress

structure Rounds where
  outputs : List Output
  stop : Cursor
  failure : Option Failure

/-- Repeats a match while it succeeds and consumes something, up to `most` times. Each further
round uses up a character of `bound`, the text that was left at the start. -/
def rounds (inner : Node size) (most : Option Nat) (bound : List Char) (count : Nat)
    (outputs : List Output) (cursor : Cursor) (progress : Progress) : Rounds × Progress :=
  if most.any (· ≤ count) then (⟨outputs.reverse, cursor, none⟩, progress)
  else
    match run inner cursor progress with
    | (.failed failure, progress) => (⟨outputs.reverse, cursor, some failure⟩, progress)
    | (.matched output next, progress) =>
        if next.offset = cursor.offset then
          (⟨(output :: outputs).reverse, next, none⟩, progress)
        else
          match bound with
          | [] => (⟨(output :: outputs).reverse, next, none⟩, progress)
          | _ :: bound => rounds inner most bound (count + 1) (output :: outputs) next progress

def node (rules : RuleTable size) (node : Node size) (cursor : Cursor) (progress : Progress) :
    Outcome × Progress :=
  let consume (rest : List Char) (bytes : Nat) : Outcome × Progress :=
    let next : Cursor := ⟨cursor.offset + bytes, rest⟩
    (.matched (.text (cursor.sliceTo next)) next, progress)
  match node with
  | .literal text =>
      match text.toList.isPrefixOf? cursor.rest with
      | some rest => consume rest text.utf8ByteSize
      | none => progress.fail cursor (Quoted.text text)
  | .char c =>
      match cursor.rest with
      | next :: rest =>
          if next = c then consume rest c.utf8Size
          else progress.fail cursor (Quoted.character c)
      | [] => progress.fail cursor (Quoted.character c)
  | .charClass text accepts =>
      match cursor.rest with
      | next :: rest =>
          if accepts next then consume rest next.utf8Size else progress.fail cursor text
      | [] => progress.fail cursor text
  | .any =>
      match cursor.rest with
      | next :: rest => consume rest next.utf8Size
      | [] => progress.fail cursor "any character"
  | .sequence parts =>
      match run.parts parts cursor progress with
      | (.error failure, progress) => (.failed failure, progress)
      | (.ok (outputs, stop), progress) =>
          match Output.ofSequence cursor stop outputs with
          | .ok output => (.matched output stop, progress)
          | .error name => progress.fail cursor s!"a single capture named '{name}'"
  | .choice branches => run.branches cursor branches none progress
  | .repetition inner least most structured =>
      let (rounds, progress) := run.rounds inner most cursor.rest 0 [] cursor progress
      if rounds.outputs.length < least then
        match rounds.failure with
        | some failure => (.failed failure, progress)
        | none =>
            progress.fail rounds.stop
              s!"{least - rounds.outputs.length} more of {inner.describe rules}"
      else
        (.matched (.ofRounds structured cursor rounds.stop rounds.outputs) rounds.stop, progress)
  | .absent inner =>
      match run inner cursor progress.enterLookahead with
      | (.matched _ _, progress) =>
          progress.leaveLookahead.fail cursor s!"not {inner.describe rules}"
      | (.failed _, progress) =>
          (.matched (.text (cursor.sliceTo cursor)) cursor, progress.leaveLookahead)
  | .capture name inner =>
      match run inner cursor progress with
      | (.matched output next, progress) =>
          (.matched (.fields [(name, output.toCapture)]) next, progress)
      | (.failed failure, progress) => (.failed failure, progress)
  | .rule id => run (rules.get id).body cursor progress

end Runner

/-- Matches a node with at most `levels` nodes inside one another. -/
def RuleTable.run (rules : RuleTable size) : (levels : Nat) → Runner size
  | 0 => fun _ cursor progress => progress.exceed cursor
  | levels + 1 => fun node cursor progress =>
      if progress.exceeded.isSome then progress.exceed cursor
      else Runner.node (rules.run levels) rules node cursor progress

end PegText
