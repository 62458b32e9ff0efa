import PegText.Language.Expression
import PegText.Proofs.Language.Tokens

/-!
The grammar of expressions passes all checks. Its rules are looked up by name.
-/

namespace PegText.Language.Expression

open RuleTable (after_succ)

def compiled : RuleTable draft.rules.length :=
  match draft.resolve CharClass.read with
  | .ok (rules, _) => rules
  | .error _ => .replicate _ ⟨"", .any⟩

def named (name : String) : Fin draft.rules.length :=
  (draft.find? name).getD ⟨0, Nat.zero_lt_succ _⟩

theorem resolve_draft : draft.resolve CharClass.read = .ok (compiled, named "expression") := by
  with_unfolding_all rfl

theorem compile_draft : draft.compile CharClass.read = .ok compiled :=
  (Grammar.Draft.resolve_eq_ok.mp resolve_draft).2.2.2

def plain (nullable : Bool) : Facts := ⟨false, false, [], nullable⟩

def captures (keys : List String) : Facts := ⟨true, false, keys, false⟩

def facts : FactTable draft.rules.length :=
  #v[captures ["arglist", "funcall", "int", "left", "op", "right", "string"],
    plain false, plain true, plain false, plain false, plain false, captures ["int"],
    captures ["string"], plain false, captures ["op"], captures ["left", "op", "right"],
    ⟨true, true, [], false⟩, captures ["arglist", "funcall"]]

def firstFacts : FactTable draft.rules.length := (facts.set 0 (plain false)).set 11 (plain false)

/-- All steps are computed together, because most of the time goes into the rules. -/
theorem steps_draft :
    (compiled.after 1 = firstFacts ∧ compiled.pass firstFacts = facts) ∧
      compiled.pass facts = facts ∧ Grammar.Draft.check compiled facts = .ok () := by
  decide +kernel

theorem after_draft : compiled.after 2 = facts := by
  obtain ⟨⟨one, two⟩, -⟩ := steps_draft
  rw [after_succ, one, two]

theorem facts?_draft : compiled.facts? = some facts :=
  RuleTable.facts?_eq_some after_draft steps_draft.2.1

theorem check_draft : Grammar.Draft.check compiled facts = .ok () :=
  steps_draft.2.2

def rules : RuleTable draft.rules.length := compiled.marked facts

theorem build?_draft :
    draft.build? CharClass.read =
      some (.ok ⟨draft.name, draft.rules.length, rules, named "expression", draft.maxNesting⟩) :=
  Grammar.Draft.build?_eq_ok resolve_draft facts?_draft check_draft rfl

theorem grammar_eq :
    grammar =
      ⟨draft.name, draft.rules.length, rules, named "expression", draft.maxNesting⟩ :=
  Grammar.Draft.built_eq build?_draft

theorem accepted : rules.Accepted facts :=
  RuleTable.accepted_of_check facts?_draft check_draft

theorem body_of_compile {id : Fin draft.rules.length} {node marked : Node draft.rules.length}
    (compiles :
      (draft.rules.get id).2.compile CharClass.read draft.find? (draft.rules.get id).1 = .ok node)
    (same : node.markStructured facts = marked) : (rules.get id).body = marked :=
  RuleTable.body_of_compile compile_draft compiles same

open Node

theorem body_expression :
    (rules.get (named "expression")).body =
      choice
        [rule (named "funcall"), rule (named "sum"), rule (named "string"),
          rule (named "integer")] :=
  body_of_compile rfl rfl

theorem body_space :
    (rules.get (named "space")).body =
      repetition (charClass "\\s" (CharClass.accepted "\\s")) 1 none false :=
  body_of_compile rfl rfl

theorem body_spaces :
    (rules.get (named "space?")).body = repetition (rule (named "space")) 0 (some 1) false :=
  body_of_compile rfl rfl

theorem body_lparen :
    (rules.get (named "lparen")).body = sequence [literal "(", rule (named "space?")] :=
  body_of_compile rfl rfl

theorem body_rparen :
    (rules.get (named "rparen")).body = sequence [literal ")", rule (named "space?")] :=
  body_of_compile rfl rfl

theorem body_comma :
    (rules.get (named "comma")).body =
      sequence [rule (named "space?"), literal ",", rule (named "space?")] :=
  body_of_compile rfl rfl

theorem body_integer :
    (rules.get (named "integer")).body = sequence [digitsNode, rule (named "space?")] :=
  body_of_compile rfl rfl

theorem body_string :
    (rules.get (named "string")).body =
      sequence [stringNode, rule (named "space?")] :=
  body_of_compile rfl rfl

theorem body_identifier :
    (rules.get (named "identifier")).body =
      repetition (charClass "[a-z_]" (CharClass.accepted "[a-z_]")) 1 none false :=
  body_of_compile rfl rfl

theorem body_operator :
    (rules.get (named "operator")).body =
      sequence [capture "op" (literal "+"), rule (named "space?")] :=
  body_of_compile rfl rfl

theorem body_sum :
    (rules.get (named "sum")).body =
      sequence
        [capture "left" (rule (named "integer")), rule (named "operator"),
          capture "right" (rule (named "expression"))] :=
  body_of_compile rfl rfl

theorem body_arglist :
    (rules.get (named "arglist")).body =
      sequence
        [rule (named "expression"),
          repetition (sequence [rule (named "comma"), rule (named "expression")]) 0 none true] :=
  body_of_compile rfl rfl

theorem body_funcall :
    (rules.get (named "funcall")).body =
      sequence
        [capture "funcall" (rule (named "identifier")), rule (named "lparen"),
          capture "arglist" (repetition (rule (named "arglist")) 0 (some 1) true),
          rule (named "rparen")] :=
  body_of_compile rfl rfl

end PegText.Language.Expression
