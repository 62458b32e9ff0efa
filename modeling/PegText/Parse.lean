import PegText.Parse.Run

/-!
Parsing a whole source with a rule of a grammar, and the report of a parse that does not succeed.
-/

namespace PegText

namespace Progress

def expectation (progress : Progress) : String :=
  match progress.expected with
  | [] => "valid input"
  | [expected] => expected
  | several => "one of " ++ ", ".intercalate several

def mismatch (progress : Progress) (source : Source) : Diagnostic :=
  let cursor := (Cursor.start source.text).advance progress.furthest
  (Diagnostic.ofCause (.unexpectedInput progress.expectation cursor.describe)).inSource source
    ⟨cursor.offset, cursor.offset + cursor.width⟩

end Progress

namespace Grammar

def tooDeep (source : Source) (limit position : Nat) : Diagnostic :=
  let cursor := (Cursor.start source.text).advance position
  ((Diagnostic.ofCause (.nestingLimit limit)).inSource source
      ⟨cursor.offset, cursor.offset + cursor.width⟩).withHelp
    "split the input or raise the nesting limit"

def run (grammar : Grammar) (id : Fin grammar.size) (text : String) (limit : Nat) :
    Outcome × Progress :=
  grammar.rules.run limit (grammar.rules.get id).body (Cursor.start text) .initial

def conclude (source : Source) (limit : Nat) : Outcome × Progress → Except Diagnostic Capture
  | (outcome, progress) =>
      match progress.exceeded, outcome with
      | some position, _ => .error (tooDeep source limit position)
      | none, .failed _ => .error (progress.mismatch source)
      | none, .matched output stop =>
          if stop.isAtEnd then .ok output.toCapture
          else .error ((progress.note stop.offset "end of input").mismatch source)

def parseWith (grammar : Grammar) (id : Fin grammar.size) (source : Source) (limit : Nat) :
    Except Diagnostic Capture :=
  conclude source limit (grammar.run id source.text limit)

def parseNested (grammar : Grammar) (rule : Option String) (source : Source) (limit : Nat) :
    Except Diagnostic Capture :=
  match rule with
  | none => grammar.parseWith grammar.root source limit
  | some name =>
      match grammar.ruleId? name with
      | some id => grammar.parseWith id source limit
      | none => .error (.ofCause (.unknownRule grammar.name name))

def parseSource (grammar : Grammar) (rule : Option String) (source : Source) :
    Except Diagnostic Capture :=
  grammar.parseNested rule source grammar.maxNesting

def parse (grammar : Grammar) (text : String) : Except Diagnostic Capture :=
  grammar.parseSource none (.ofInput text)

end Grammar

end PegText
