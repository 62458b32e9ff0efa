import PegText.Grammar.Checks

/-!
Grammars: tables of rules that have passed every check, with a rule to start from and a limit on
nesting.
-/

namespace PegText

structure Grammar where
  name : String
  size : Nat
  rules : RuleTable size
  root : Fin size
  maxNesting : Nat

namespace Grammar

def defaultMaxNesting : Nat := 256

def rootName (grammar : Grammar) : String := (grammar.rules.get grammar.root).name

def ruleNames (grammar : Grammar) : List String := grammar.rules.toList.map Rule.name

def ruleId? (grammar : Grammar) (name : String) : Option (Fin grammar.size) :=
  (List.finRange grammar.size).find? fun id => (grammar.rules.get id).name == name

def nothing : Grammar :=
  { name := "nothing"
    size := 1
    rules := #v[⟨"nothing", .choice []⟩]
    root := 0
    maxNesting := defaultMaxNesting }

structure Draft where
  name : String
  rules : List (String × Matcher)
  /-- The rule to start from, the first one if none is named. -/
  root : Option String
  maxNesting : Nat

namespace Draft

def ofRules (name : String) (rules : List (String × Matcher)) : Draft :=
  ⟨name, rules, none, defaultMaxNesting⟩

def find? (draft : Draft) (name : String) : Option (Fin draft.rules.length) :=
  draft.rules.findFinIdx? fun rule => rule.1 == name

def rootId (draft : Draft) : Except Diagnostic (Fin draft.rules.length) :=
  match draft.root.or (draft.rules.head?.map (·.1)) with
  | none => .error ((Diagnostic.ofCause (.missingRoot "")).withHelp "define at least one rule")
  | some name =>
      match draft.find? name with
      | some id => .ok id
      | none => .error (.ofCause (.missingRoot name))

def compile (draft : Draft) (read : CharClass.Reader) :
    Except Cause (RuleTable draft.rules.length) :=
  (Vector.ofFn draft.rules.get).mapM fun rule =>
    (rule.2.compile read draft.find? rule.1).map (Rule.mk rule.1)

def resolve (draft : Draft) (read : CharClass.Reader) :
    Except Diagnostic (RuleTable draft.rules.length × Fin draft.rules.length) :=
  match Names.firstRepeated? [] (Entries.names draft.rules) with
  | some name => .error (.ofCause (.duplicateRule name))
  | none =>
      match Matcher.undefinedReference? draft.rules with
      | some cause => .error (.ofCause cause)
      | none =>
          match draft.rootId with
          | .error diagnostic => .error diagnostic
          | .ok root =>
              match draft.compile read with
              | .error cause => .error (.ofCause cause)
              | .ok rules => .ok (rules, root)

def check {size : Nat} (rules : RuleTable size) (facts : FactTable size) :
    Except Diagnostic Unit :=
  match rules.duplicateCapture? facts with
  | some cause =>
      .error ((Diagnostic.ofCause cause).withHelp
        "give each capture in a sequence a distinct name")
  | none =>
      match rules.leftRecursion? facts with
      | some cause => .error (.ofCause cause)
      | none => .ok ()

/-- Checks and compiles a draft whose classes are read with `read`. There is no answer where the
facts about the rules never come to rest. -/
def build? (draft : Draft) (read : CharClass.Reader := CharClass.read) :
    Option (Except Diagnostic Grammar) :=
  match draft.resolve read with
  | .error diagnostic => some (.error diagnostic)
  | .ok (rules, root) =>
      rules.facts?.map fun facts =>
        (check rules facts).map fun _ =>
          { name := draft.name
            size := draft.rules.length
            rules := rules.map fun rule => { rule with body := rule.body.markStructured facts }
            root := root
            maxNesting := draft.maxNesting }

/-- The grammar of a draft that passes every check; any other draft gives the grammar that
matches nothing. -/
def built (draft : Draft) : Grammar :=
  match draft.build? CharClass.read with
  | some (.ok grammar) => grammar
  | _ => nothing

end Draft

end Grammar

end PegText
