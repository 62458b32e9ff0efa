import PegText.Entries
import PegText.Grammar.Node

/-!
What can be said of a rule without any input: whether it may capture something, whether it gives
a list, which names it gives to a record around it, and whether it may match nothing. A sequence
that gives a list hides the names of its parts.

The facts of a rule depend on those of the rules it refers to, so they are computed in passes
over the whole table, each updating the rules in order, until a pass changes nothing.
-/

namespace PegText

structure Facts where
  structured : Bool
  listed : Bool
  keys : List String
  nullable : Bool
  deriving DecidableEq

def Facts.bottom : Facts := ⟨false, false, [], false⟩

abbrev FactTable (size : Nat) := Vector Facts size

variable {size : Nat}

namespace Node

mutual

def isStructured (facts : FactTable size) : Node size → Bool
  | literal _ | char _ | charClass _ _ | any | absent _ => false
  | sequence parts => anyStructured facts parts
  | choice branches => anyStructured facts branches
  | repetition inner _ _ _ => inner.isStructured facts
  | capture _ _ => true
  | rule id => (facts.get id).structured

def anyStructured (facts : FactTable size) : List (Node size) → Bool
  | [] => false
  | node :: rest => node.isStructured facts || anyStructured facts rest

end

mutual

def isListed (facts : FactTable size) : Node size → Bool
  | literal _ | char _ | charClass _ _ | any | absent _ | capture _ _ => false
  | sequence parts => anyListed facts parts
  | choice branches => !branches.isEmpty && allListed facts branches
  | repetition inner _ _ _ => inner.isStructured facts
  | rule id => (facts.get id).listed

def anyListed (facts : FactTable size) : List (Node size) → Bool
  | [] => false
  | node :: rest => node.isListed facts || anyListed facts rest

def allListed (facts : FactTable size) : List (Node size) → Bool
  | [] => true
  | node :: rest => node.isListed facts && allListed facts rest

end

mutual

def keys (facts : FactTable size) : Node size → List String
  | literal _ | char _ | charClass _ _ | any | absent _ | repetition _ _ _ _ => []
  | sequence parts => if anyListed facts parts then [] else keysOfAll facts parts
  | choice branches => keysOfAll facts branches
  | capture name _ => [name]
  | rule id => (facts.get id).keys

def keysOfAll (facts : FactTable size) : List (Node size) → List String
  | [] => []
  | node :: rest => Names.union (node.keys facts) (keysOfAll facts rest)

end

mutual

def isNullable (facts : FactTable size) : Node size → Bool
  | literal text => text.isEmpty
  | char _ | charClass _ _ | any => false
  | sequence parts => allNullable facts parts
  | choice branches => anyNullable facts branches
  | repetition inner least _ _ => least == 0 || inner.isNullable facts
  | absent _ => true
  | capture _ inner => inner.isNullable facts
  | rule id => (facts.get id).nullable

def allNullable (facts : FactTable size) : List (Node size) → Bool
  | [] => true
  | node :: rest => node.isNullable facts && allNullable facts rest

def anyNullable (facts : FactTable size) : List (Node size) → Bool
  | [] => false
  | node :: rest => node.isNullable facts || anyNullable facts rest

end

mutual

def leftCalls (facts : FactTable size) : Node size → List (Fin size)
  | literal _ | char _ | charClass _ _ | any => []
  | sequence parts => leftCallsOfSequence facts parts
  | choice branches => leftCallsOfAll facts branches
  | repetition inner _ _ _ => inner.leftCalls facts
  | absent inner => inner.leftCalls facts
  | capture _ inner => inner.leftCalls facts
  | rule id => [id]

def leftCallsOfSequence (facts : FactTable size) : List (Node size) → List (Fin size)
  | [] => []
  | node :: rest =>
      node.leftCalls facts ++
        (if node.isNullable facts then leftCallsOfSequence facts rest else [])

def leftCallsOfAll (facts : FactTable size) : List (Node size) → List (Fin size)
  | [] => []
  | node :: rest => node.leftCalls facts ++ leftCallsOfAll facts rest

end

mutual

def captureNames : Node size → List String
  | literal _ | char _ | charClass _ _ | any | rule _ => []
  | sequence parts => captureNamesOfAll parts
  | choice branches => captureNamesOfAll branches
  | repetition inner _ _ _ => inner.captureNames
  | absent inner => inner.captureNames
  | capture name inner => Names.insert name inner.captureNames

def captureNamesOfAll : List (Node size) → List String
  | [] => []
  | node :: rest => Names.union node.captureNames (captureNamesOfAll rest)

end

def facts (facts : FactTable size) (node : Node size) : Facts :=
  ⟨node.isStructured facts, node.isListed facts, node.keys facts, node.isNullable facts⟩

mutual

def markStructured (facts : FactTable size) : Node size → Node size
  | sequence parts => sequence (markAll facts parts)
  | choice branches => choice (markAll facts branches)
  | repetition inner least most _ =>
      repetition (inner.markStructured facts) least most (inner.isStructured facts)
  | absent inner => absent (inner.markStructured facts)
  | capture name inner => capture name (inner.markStructured facts)
  | literal text => literal text
  | char c => char c
  | charClass text accepts => charClass text accepts
  | any => any
  | rule id => rule id

def markAll (facts : FactTable size) : List (Node size) → List (Node size)
  | [] => []
  | node :: rest => node.markStructured facts :: markAll facts rest

end

end Node

namespace RuleTable

def bottom (size : Nat) : FactTable size := Vector.replicate size .bottom

def update (rules : RuleTable size) (facts : FactTable size) (id : Fin size) : FactTable size :=
  facts.set id ((rules.get id).body.facts facts)

def pass (rules : RuleTable size) (facts : FactTable size) : FactTable size :=
  (List.finRange size).foldl rules.update facts

def settle? (rules : RuleTable size) : Nat → FactTable size → Option (FactTable size)
  | 0, _ => none
  | limit + 1, facts =>
      let next := rules.pass facts
      if next = facts then some facts else settle? rules limit next

def captureNames (rules : RuleTable size) : List String :=
  Node.captureNamesOfAll (rules.toList.map Rule.body)

/-- How many fact tables there are: three flags and a set of names for each rule. As many passes
without rest mean that the passes never come to rest. -/
def tableCount (rules : RuleTable size) : Nat :=
  Nat.pow 2 (size * (3 + rules.captureNames.length))

def facts? (rules : RuleTable size) : Option (FactTable size) :=
  rules.settle? rules.tableCount (bottom size)

end RuleTable

end PegText
