import PegText.Grammar.Facts

/-!
What a grammar is refused for: rules of one name, references to no rule, one name captured twice
in a sequence, and rules that can reach themselves without consuming anything.
-/

namespace PegText

def Names.firstRepeated? (seen : List String) : List String → Option String
  | [] => none
  | name :: rest =>
      if seen.contains name then some name else firstRepeated? (name :: seen) rest

def Matcher.undefinedReference? (rules : List (String × Matcher)) : Option Cause :=
  rules.findSome? fun rule =>
    (rule.2.references.find? fun reference => !Entries.contains reference rules).map
      (Cause.undefinedRule rule.1)

variable {size : Nat}

namespace Node

def keysInTurn (facts : FactTable size) (parts : List (Node size)) : List String :=
  parts.flatMap fun part => part.keys facts

mutual

def clash? (facts : FactTable size) : Node size → Option String
  | literal _ | char _ | charClass _ _ | any | rule _ => none
  | sequence parts =>
      (Names.firstRepeated? [] (keysInTurn facts parts)).or (clashOfAll? facts parts)
  | choice branches => clashOfAll? facts branches
  | repetition inner _ _ _ => inner.clash? facts
  | absent inner => inner.clash? facts
  | capture _ inner => inner.clash? facts

def clashOfAll? (facts : FactTable size) : List (Node size) → Option String
  | [] => none
  | node :: rest => (node.clash? facts).or (clashOfAll? facts rest)

end

end Node

abbrev CallGraph (size : Nat) := Fin size → List (Fin size)

namespace CallGraph

abbrev Findings (size : Nat) := Option (List (Fin size)) × List (Fin size)

def tryEach (visit : Fin size → List (Fin size) → Findings size) :
    List (Fin size) → List (Fin size) → Findings size
  | [], entered => (none, entered)
  | next :: rest, entered =>
      match visit next entered with
      | (some path, entered) => (some path, entered)
      | (none, entered) => tryEach visit rest entered

/-- Looks for a way from `start` to `target`, depth first with at most `depth` calls, entering no
rule twice. The way is given without its start. -/
def search (calls : CallGraph size) (target : Fin size) :
    (depth : Nat) → (start : Fin size) → (entered : List (Fin size)) → Findings size
  | 0, _, entered => (none, entered)
  | depth + 1, start, entered =>
      tryEach
        (fun next entered =>
          if next = target then (some [next], entered)
          else if entered.contains next then (none, entered)
          else
            match search calls target depth next (next :: entered) with
            | (some path, entered) => (some (next :: path), entered)
            | (none, entered) => (none, entered))
        (calls start) entered

def cycle? (calls : CallGraph size) (start : Fin size) : Option (List (Fin size)) :=
  (calls.search start (size + 1) start []).1

end CallGraph

namespace RuleTable

def leftCalls (rules : RuleTable size) (facts : FactTable size) : CallGraph size :=
  fun id => (List.finRange size).filter ((rules.get id).body.leftCalls facts).contains

def duplicateCapture? (rules : RuleTable size) (facts : FactTable size) : Option Cause :=
  rules.toList.findSome? fun rule => (rule.body.clash? facts).map (.duplicateCapture rule.name)

def leftRecursion? (rules : RuleTable size) (facts : FactTable size) : Option Cause :=
  (List.finRange size).findSome? fun start =>
    ((rules.leftCalls facts).cycle? start).map fun path =>
      .leftRecursion (rules.get start).name
        (" -> ".intercalate ((start :: path).map fun id => (rules.get id).name))

end RuleTable

end PegText
