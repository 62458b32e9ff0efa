import PegText.Language.Arguments
import PegText.Proofs.Language.Tokens
import PegText.Proofs.Parse.Depth

/-!
The grammar of hash objects passes all checks. Its rules are looked up by name.
-/

namespace PegText.Language.Arguments

def compiled : RuleTable draft.rules.length :=
  match draft.resolve CharClass.read with
  | .ok (rules, _) => rules
  | .error _ => .replicate _ ⟨"", .any⟩

def named (name : String) : Fin draft.rules.length :=
  (draft.find? name).getD ⟨0, Nat.zero_lt_succ _⟩

theorem resolve_draft : draft.resolve CharClass.read = .ok (compiled, named "hash_obj") := by
  with_unfolding_all rfl

theorem compile_draft : draft.compile CharClass.read = .ok compiled :=
  (Grammar.Draft.resolve_eq_ok.mp resolve_draft).2.2.2

def plain (nullable : Bool) : Facts := ⟨false, false, [], nullable⟩

def captures (keys : List String) : Facts := ⟨true, false, keys, false⟩

def facts : FactTable draft.rules.length :=
  #v[plain false, plain true, plain false, captures ["string"], captures ["int"],
    captures ["int", "string"], captures ["key"], captures ["key_value"],
    captures ["named_args"], captures ["named_args"]]

/-- Every rule stands behind those that it calls, so that one pass is enough. All steps are computed
together, because most of the time goes into the rules. -/
theorem steps_draft :
    compiled.after 1 = facts ∧ compiled.pass facts = facts ∧
      Grammar.Draft.check compiled facts = .ok () := by
  decide +kernel

theorem facts?_draft : compiled.facts? = some facts :=
  RuleTable.facts?_eq_some steps_draft.1 steps_draft.2.1

theorem check_draft : Grammar.Draft.check compiled facts = .ok () :=
  steps_draft.2.2

def rules : RuleTable draft.rules.length := compiled.marked facts

theorem build?_draft :
    draft.build? CharClass.read =
      some (.ok ⟨draft.name, draft.rules.length, rules, named "hash_obj", draft.maxNesting⟩) :=
  Grammar.Draft.build?_eq_ok resolve_draft facts?_draft check_draft rfl

abbrev checked : Grammar :=
  ⟨draft.name, draft.rules.length, rules, named "hash_obj", draft.maxNesting⟩

theorem grammar_eq : grammar = checked :=
  Grammar.Draft.built_eq build?_draft

theorem accepted : rules.Accepted facts :=
  RuleTable.accepted_of_check facts?_draft check_draft

theorem body_of_compile {id : Fin draft.rules.length} {node marked : Node draft.rules.length}
    (compiles :
      (draft.rules.get id).2.compile CharClass.read draft.find? (draft.rules.get id).1 = .ok node)
    (same : node.markStructured facts = marked) : (rules.get id).body = marked :=
  RuleTable.body_of_compile compile_draft compiles same

open Node

theorem body_spaces :
    (rules.get (named "spaces")).body =
      repetition (charClass "\\s" (CharClass.accepted "\\s")) 1 none false :=
  body_of_compile rfl rfl

theorem body_maybe_spaces :
    (rules.get (named "spaces?")).body = repetition (rule (named "spaces")) 0 (some 1) false :=
  body_of_compile rfl rfl

theorem body_comma :
    (rules.get (named "comma")).body =
      sequence [rule (named "spaces?"), literal ",", rule (named "spaces?")] :=
  body_of_compile rfl rfl

theorem body_string :
    (rules.get (named "string")).body = choice [quotedNode '"', quotedNode '\''] :=
  body_of_compile rfl rfl

theorem body_integer : (rules.get (named "integer")).body = digitsNode :=
  body_of_compile rfl rfl

theorem body_value :
    (rules.get (named "value")).body = choice [rule (named "string"), rule (named "integer")] :=
  body_of_compile rfl rfl

theorem body_key :
    (rules.get (named "key")).body =
      sequence
        [rule (named "spaces?"),
          capture "key"
            (repetition (charClass "[^\\s:]" (CharClass.accepted "[^\\s:]")) 1 none false),
          literal ":", rule (named "spaces?")] :=
  body_of_compile rfl rfl

theorem body_key_value :
    (rules.get (named "key_value")).body =
      sequence
        [capture "key_value"
            (sequence [rule (named "key"), capture "val" (rule (named "value"))]),
          rule (named "spaces?")] :=
  body_of_compile rfl rfl

theorem body_named_args :
    (rules.get (named "named_args")).body =
      sequence
        [rule (named "spaces?"),
          capture "named_args"
            (sequence
              [rule (named "key_value"),
                repetition (sequence [rule (named "comma"), rule (named "key_value")]) 0 none
                  true]),
          rule (named "spaces?")] :=
  body_of_compile rfl rfl

theorem body_hash_obj :
    (rules.get (named "hash_obj")).body =
      sequence
        [rule (named "spaces?"), literal "\x7b", rule (named "named_args"), literal "\x7d",
          rule (named "spaces?")] :=
  body_of_compile rfl rfl

def heights : Vector Nat draft.rules.length :=
  #v[2, 4, 6, 7, 3, 9, 6, 14, 20, 22]

theorem height_body : ∀ id, (rules.get id).body.height heights ≤ heights.get id := by
  decide +kernel

end PegText.Language.Arguments
