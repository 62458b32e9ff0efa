import PegText.Language.Directive
import PegText.Proofs.Language.Tokens
import PegText.Proofs.Parse.Depth

/-!
The grammar of directive blocks passes all checks. Its rules are looked up by name.
-/

namespace PegText.Language.Directive

open RuleTable (after_succ)

def compiled : RuleTable draft.rules.length :=
  match draft.resolve CharClass.read with
  | .ok (rules, _) => rules
  | .error _ => .replicate _ ⟨"", .any⟩

def named (name : String) : Fin draft.rules.length :=
  (draft.find? name).getD ⟨0, Nat.zero_lt_succ _⟩

theorem resolve_draft : draft.resolve CharClass.read = .ok (compiled, named "document") := by
  with_unfolding_all rfl

theorem compile_draft : draft.compile CharClass.read = .ok compiled :=
  (Grammar.Draft.resolve_eq_ok.mp resolve_draft).2.2.2

def plain (nullable : Bool) : Facts := ⟨false, false, [], nullable⟩

def captures (keys : List String) (nullable : Bool) : Facts := ⟨true, false, keys, nullable⟩

def collects (nullable : Bool) : Facts := ⟨true, true, [], nullable⟩

def facts : FactTable draft.rules.length :=
  #v[collects true, captures ["no_code"] true, captures ["code"] false, plain true, plain true,
    plain false, plain false, captures ["show"] false, captures ["hide"] false,
    captures ["hide", "show"] false, captures ["command", "result"] false,
    captures ["visibility"] false, captures ["arglist", "funcall", "stdin"] false,
    captures ["funcall"] false, captures ["stdin"] true, collects true, collects false,
    captures ["bare"] false, plain false, plain false, collects false,
    captures ["bare", "int", "key_value", "string"] false, captures ["string"] false,
    captures ["int"] false, captures ["int"] false, plain false,
    captures ["int", "string"] false, captures ["key"] false, captures ["key_value"] false,
    captures ["bare"] false]

def fourthFacts : FactTable draft.rules.length := facts.set 15 (captures [] true)

def thirdFacts : FactTable draft.rules.length := fourthFacts.set 16 (plain false)

def secondFacts : FactTable draft.rules.length :=
  (thirdFacts.set 0 (collects false)).set 20 (plain false)

def firstFacts : FactTable draft.rules.length :=
  ((((secondFacts.set 0 (plain false)).set 1 (captures ["no_code"] false)).set 12
    (captures ["arglist"] false)).set 15 (plain true)).set 21 (plain false)

/-- The passes come to rest after the fifth one: the rules for arguments call each other against
their order. All steps are computed together, because most of the time goes into the rules. -/
theorem steps_draft :
    (compiled.after 1 = firstFacts ∧ compiled.pass firstFacts = secondFacts ∧
      compiled.pass secondFacts = thirdFacts ∧ compiled.pass thirdFacts = fourthFacts ∧
        compiled.pass fourthFacts = facts) ∧
      compiled.pass facts = facts ∧ Grammar.Draft.check compiled facts = .ok () := by
  decide +kernel

theorem after_draft : compiled.after 5 = facts := by
  obtain ⟨⟨one, two, three, four, five⟩, -⟩ := steps_draft
  rw [after_succ, after_succ, after_succ, after_succ, one, two, three, four, five]

theorem facts?_draft : compiled.facts? = some facts :=
  RuleTable.facts?_eq_some after_draft steps_draft.2.1

theorem check_draft : Grammar.Draft.check compiled facts = .ok () :=
  steps_draft.2.2

def rules : RuleTable draft.rules.length := compiled.marked facts

theorem build?_draft :
    draft.build? CharClass.read =
      some (.ok ⟨draft.name, draft.rules.length, rules, named "document", draft.maxNesting⟩) :=
  Grammar.Draft.build?_eq_ok resolve_draft facts?_draft check_draft rfl

theorem grammar_eq :
    grammar = ⟨draft.name, draft.rules.length, rules, named "document", draft.maxNesting⟩ :=
  Grammar.Draft.built_eq build?_draft

theorem accepted : rules.Accepted facts :=
  RuleTable.accepted_of_check facts?_draft check_draft

theorem body_of_compile {id : Fin draft.rules.length} {node marked : Node draft.rules.length}
    (compiles :
      (draft.rules.get id).2.compile CharClass.read draft.find? (draft.rules.get id).1 = .ok node)
    (same : node.markStructured facts = marked) : (rules.get id).body = marked :=
  RuleTable.body_of_compile compile_draft compiles same

open Node

theorem body_document :
    (rules.get (named "document")).body =
      sequence [rule (named "no_code"), repetition (rule (named "code")) 0 none true] :=
  body_of_compile rfl rfl

theorem body_no_code :
    (rules.get (named "no_code")).body = capture "no_code" (rule (named "text")) :=
  body_of_compile rfl rfl

theorem body_code :
    (rules.get (named "code")).body =
      capture "code" (sequence [rule (named "start_command"), rule (named "command")]) :=
  body_of_compile rfl rfl

theorem body_text :
    (rules.get (named "text")).body =
      repetition (sequence [absent (rule (named "start_command")), any]) 0 none false :=
  body_of_compile rfl rfl

theorem body_show : (rules.get (named "show")).body = capture "show" (literal ">") :=
  body_of_compile rfl rfl

theorem body_hide : (rules.get (named "hide")).body = capture "hide" (literal "-") :=
  body_of_compile rfl rfl

theorem body_flag :
    (rules.get (named "flag")).body = choice [rule (named "show"), rule (named "hide")] :=
  body_of_compile rfl rfl

theorem body_visibility :
    (rules.get (named "visibility")).body =
      sequence [capture "command" (rule (named "flag")), capture "result" (rule (named "flag"))] :=
  body_of_compile rfl rfl

theorem body_start_command :
    (rules.get (named "start_command")).body =
      sequence
        [literal marker, capture "visibility" (rule (named "visibility")),
          repetition (rule (named "inline_space")) 0 (some 1) false] :=
  body_of_compile rfl rfl

theorem body_command :
    (rules.get (named "command")).body =
      sequence
        [rule (named "funcall"), capture "arglist" (rule (named "args")),
          repetition (rule (named "inline_space")) 0 (some 1) false,
          repetition (rule (named "newline")) 0 (some 1) false, rule (named "stdin")] :=
  body_of_compile rfl rfl

theorem body_funcall :
    (rules.get (named "funcall")).body =
      capture "funcall"
        (repetition (charClass "[^ \\t\\r\\n()]" (CharClass.accepted "[^ \\t\\r\\n()]")) 1 none
          false) :=
  body_of_compile rfl rfl

theorem body_stdin : (rules.get (named "stdin")).body = capture "stdin" (rule (named "text")) :=
  body_of_compile rfl rfl

theorem body_space :
    (rules.get (named "space?")).body =
      repetition (charClass "\\s" (CharClass.accepted "\\s")) 0 none false :=
  body_of_compile rfl rfl

theorem body_inline_space :
    (rules.get (named "inline_space")).body =
      repetition (charClass "[ \t]" (CharClass.accepted "[ \t]")) 1 none false :=
  body_of_compile rfl rfl

theorem body_newline :
    (rules.get (named "newline")).body = choice [literal "\r\n", literal "\n"] :=
  body_of_compile rfl rfl

theorem body_args :
    (rules.get (named "args")).body =
      choice
        [rule (named "paren_args"),
          sequence [absent (literal "("), repetition (rule (named "line_args")) 0 (some 1) true]] :=
  body_of_compile rfl rfl

theorem body_paren_args :
    (rules.get (named "paren_args")).body =
      sequence
        [literal "(", rule (named "space?"),
          repetition (sequence [rule (named "arglist"), rule (named "space?")]) 0 (some 1) true,
          literal ")"] :=
  body_of_compile rfl rfl

theorem body_line_args :
    (rules.get (named "line_args")).body =
      sequence [rule (named "inline_space"), capture "bare" (rule (named "line_text"))] :=
  body_of_compile rfl rfl

theorem body_line_word :
    (rules.get (named "line_word")).body =
      repetition (charClass "[^ \\t\\r\\n]" (CharClass.accepted "[^ \\t\\r\\n]")) 1 none false :=
  body_of_compile rfl rfl

theorem body_line_text :
    (rules.get (named "line_text")).body =
      sequence
        [rule (named "line_word"),
          repetition (sequence [rule (named "inline_space"), rule (named "line_word")]) 0 none
            false] :=
  body_of_compile rfl rfl

theorem body_arglist :
    (rules.get (named "arglist")).body =
      sequence
        [rule (named "arg"),
          repetition
            (sequence
              [rule (named "space?"), literal ",", rule (named "space?"), rule (named "arg")])
            0 none true] :=
  body_of_compile rfl rfl

theorem body_arg :
    (rules.get (named "arg")).body =
      choice
        [rule (named "string"), rule (named "key_value"), rule (named "number"),
          rule (named "bare")] :=
  body_of_compile rfl rfl

theorem body_string : (rules.get (named "string")).body = stringNode :=
  body_of_compile rfl rfl

theorem body_integer : (rules.get (named "integer")).body = digitsNode :=
  body_of_compile rfl rfl

theorem body_number :
    (rules.get (named "number")).body =
      sequence [rule (named "integer"), absent (rule (named "bare_char"))] :=
  body_of_compile rfl rfl

theorem body_bare_char :
    (rules.get (named "bare_char")).body =
      charClass "[^\\s,()'\"]" (CharClass.accepted "[^\\s,()'\"]") :=
  body_of_compile rfl rfl

theorem body_value :
    (rules.get (named "value")).body = choice [rule (named "string"), rule (named "integer")] :=
  body_of_compile rfl rfl

theorem body_key :
    (rules.get (named "key")).body =
      capture "key"
        (repetition (charClass "[^\\s:(),'\"]" (CharClass.accepted "[^\\s:(),'\"]")) 1 none
          false) :=
  body_of_compile rfl rfl

theorem body_key_value :
    (rules.get (named "key_value")).body =
      capture "key_value"
        (sequence
          [rule (named "key"), literal ":", repetition (rule (named "inline_space")) 0 (some 1) false,
            capture "value" (rule (named "value"))]) :=
  body_of_compile rfl rfl

theorem body_bare :
    (rules.get (named "bare")).body =
      capture "bare" (repetition (rule (named "bare_char")) 1 none false) :=
  body_of_compile rfl rfl

def heights : Vector Nat draft.rules.length :=
  #v[34, 16, 31, 14, 2, 2, 2, 2, 2, 4, 7, 10, 28, 3, 16, 25, 23, 9, 2, 6, 19, 15, 7, 3, 5, 1, 9, 3,
    13, 4]

theorem height_body : ∀ id, (rules.get id).body.height heights ≤ heights.get id := by
  decide +kernel

end PegText.Language.Directive
