import PegText.CharClass.Reader
import PegText.Diagnostic
import PegText.Matcher

/-!
Compiled matchers. A node belongs to a table of `size` rules: its references are indices into
that table, so none of them can dangle, and its classes are sets of characters. What the text of
a class stands for is up to the reader that a matcher is compiled with.
-/

namespace PegText

inductive Node (size : Nat)
  | literal (text : String)
  | char (c : Char)
  | charClass (text : String) (accepts : Char → Bool)
  | any
  | sequence (parts : List (Node size))
  | choice (branches : List (Node size))
  /-- `structured` says that the rounds may capture something, which makes the result a list
  even when there is no round. -/
  | repetition (inner : Node size) (least : Nat) (most : Option Nat) (structured : Bool)
  | absent (inner : Node size)
  | capture (name : String) (inner : Node size)
  | rule (id : Fin size)

structure Rule (size : Nat) where
  name : String
  body : Node size

abbrev RuleTable (size : Nat) := Vector (Rule size) size

namespace Matcher

mutual

def references : Matcher → List String
  | literal _ | char _ | charClass _ | any => []
  | sequence parts => referencesOfAll parts
  | choice branches => referencesOfAll branches
  | repetition inner _ _ => inner.references
  | absent inner => inner.references
  | capture _ inner => inner.references
  | rule name => [name]

def referencesOfAll : List Matcher → List String
  | [] => []
  | matcher :: rest => matcher.references ++ referencesOfAll rest

end

variable {size : Nat}

mutual

/-- The node for a matcher of the rule `owner`, where `read` reads the classes and `find` knows the
indices of the rules. -/
def compile (read : CharClass.Reader) (find : String → Option (Fin size)) (owner : String) :
    Matcher → Except Cause (Node size)
  | literal text => .ok (.literal text)
  | char c => .ok (.char c)
  | charClass text =>
      match read text with
      | .ok accepts => .ok (.charClass text accepts)
      | .error error => .error (.invalidClass owner text error.message)
  | any => .ok .any
  | sequence parts => (compileAll read find owner parts).map .sequence
  | choice branches => (compileAll read find owner branches).map .choice
  | repetition inner least most =>
      (inner.compile read find owner).map fun node => .repetition node least most false
  | absent inner => (inner.compile read find owner).map .absent
  | capture name inner => (inner.compile read find owner).map (.capture name)
  | rule name =>
      match find name with
      | some id => .ok (.rule id)
      | none => .error (.undefinedRule owner name)

def compileAll (read : CharClass.Reader) (find : String → Option (Fin size)) (owner : String) :
    List Matcher → Except Cause (List (Node size))
  | [] => .ok []
  | matcher :: rest =>
      match matcher.compile read find owner with
      | .error cause => .error cause
      | .ok node => (compileAll read find owner rest).map (node :: ·)

end

end Matcher

end PegText
