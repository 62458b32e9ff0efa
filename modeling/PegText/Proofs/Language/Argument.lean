import PegText.Document.Reading
import PegText.Proofs.CharClass.Classes
import PegText.Proofs.Language.Phrase

/-!
How the arguments of directives are written, what they stand for, and what the captures that show
them are reduced to.
-/

namespace PegText.Language.Directive

open CharClass (isAsciiDigit isInline isBareChar isKeyChar)
open Expression (ends_of_readInteger readInteger)
open Ruleset (Ends)

inductive Literal
  | str (content : List Char)
  | int (digits : List Char)

inductive Phrase
  | plain (value : Literal)
  | keyed (key : List Char) (value : Literal)
  | bare (word : List Char)

inductive Literal.Spells : Literal → List Char → Prop
  | str {quote content} : quote = '\'' ∨ quote = '"' → quote ∉ content →
      Spells (.str content) (quote :: (content ++ [quote]))
  | int {digits} : Numeral digits → Spells (.int digits) digits

def Inline (text : List Char) : Prop := ∀ c ∈ text, isInline c = true

def Key (text : List Char) : Prop := text ≠ [] ∧ ∀ c ∈ text, isKeyChar c = true

structure Bare (word : List Char) : Prop where
  filled : word ≠ []
  chars : ∀ c ∈ word, isBareChar c = true
  notNumeral : ¬Numeral word
  notKeyed : ∀ key digit rest, Key key → isAsciiDigit digit = true →
    word ≠ key ++ ':' :: digit :: rest

inductive Phrase.Spells : Phrase → List Char → Prop
  | plain {value text} : value.Spells text → Spells (.plain value) text
  | keyed {key blanks value text} : Key key → Inline blanks → value.Spells text →
      Spells (.keyed key value) (key ++ (':' :: blanks) ++ text)
  | bare {word} : Bare word → Spells (.bare word) word

inductive SpellsMore : List Phrase → List Char → Prop
  | nil : SpellsMore [] []
  | cons {before behind next text rest more} : Blank before → Blank behind →
      Phrase.Spells next text → SpellsMore rest more →
      SpellsMore (next :: rest) (before ++ (',' :: behind) ++ text ++ more)

inductive SpellsList : List Phrase → List Char → Prop
  | empty {blanks} : Blank blanks → SpellsList [] (('(' :: blanks) ++ [')'])
  | cons {blanks first text rest more behind} : Blank blanks → Phrase.Spells first text →
      SpellsMore rest more → Blank behind →
      SpellsList (first :: rest) (('(' :: blanks) ++ (text ++ more) ++ (behind ++ [')']))

def Literal.argument? : Literal → Option Argument
  | str content => some (.str (.ofList content))
  | int digits => (Integer.number? digits).map .int

def Phrase.argument? : Phrase → Option Argument
  | plain value => value.argument?
  | keyed key value => value.argument?.map (.keyValue (.ofList key))
  | bare word => some (.bare (.ofList word))

def arguments? : List Phrase → Option (List Argument)
  | [] => some []
  | first :: rest => first.argument?.bind fun argument => (arguments? rest).map (argument :: ·)

inductive Literal.Pictures : Literal → Capture → Prop
  | str {content slice} : slice.text = .ofList content →
      Pictures (.str content) (.tagged "string" (.atom slice))
  | int {digits slice} : Numeral digits → slice.text = .ofList digits →
      Pictures (.int digits) (.tagged "int" (.atom slice))

inductive Phrase.Pictures : Phrase → Capture → Prop
  | plain {value capture} : value.Pictures capture → Pictures (.plain value) capture
  | keyed {key slice value capture} : slice.text = .ofList key → value.Pictures capture →
      Pictures (.keyed key value)
        (.tagged "key_value" (.record [("key", .atom slice), ("value", capture)]))
  | bare {word slice} : slice.text = .ofList word →
      Pictures (.bare word) (.tagged "bare" (.atom slice))

theorem Literal.Pictures.unique {value other : Literal} {capture : Capture}
    (pictures : value.Pictures capture) (same : other.Pictures capture) : value = other := by
  generalize equal : capture = shown at same
  cases pictures with
  | str sameText =>
      cases same with
      | str sameOther =>
          cases equal
          rw [String.ofList_inj.mp (sameText.symm.trans sameOther)]
      | int => simp at equal
  | int _ sameText =>
      cases same with
      | str => simp at equal
      | int _ sameOther =>
          cases equal
          rw [String.ofList_inj.mp (sameText.symm.trans sameOther)]

theorem Phrase.Pictures.unique {phrase other : Phrase} {capture : Capture}
    (pictures : phrase.Pictures capture) (same : other.Pictures capture) : phrase = other := by
  generalize equal : capture = shown at same
  cases pictures with
  | plain pictured =>
      cases same with
      | plain pictured' =>
          cases equal
          rw [pictured.unique pictured']
      | keyed | bare => cases pictured <;> simp at equal
  | keyed sameKey pictured =>
      cases same with
      | plain pictured' => cases pictured' <;> simp at equal
      | keyed sameOther pictured' =>
          cases equal
          rw [String.ofList_inj.mp (sameKey.symm.trans sameOther), pictured.unique pictured']
      | bare => simp at equal
  | bare sameText =>
      cases same with
      | plain pictured' => cases pictured' <;> simp at equal
      | keyed => simp at equal
      | bare sameOther =>
          cases equal
          rw [String.ofList_inj.mp (sameText.symm.trans sameOther)]

theorem phrases_unique {phrases others : List Phrase} {captures : List Capture}
    (pictures : List.Forall₂ Phrase.Pictures phrases captures)
    (same : List.Forall₂ Phrase.Pictures others captures) : phrases = others := by
  induction pictures generalizing others with
  | nil =>
      cases same
      rfl
  | cons pictured _ ih =>
      cases same with
      | cons pictured' same => rw [pictured.unique pictured', ih same]

def argumentTree (argument : Argument) : Tree Part := .value (.argument argument)

abbrev Reduces {β : Type} (answer : Except Diagnostic β) (expected : Option β) : Prop :=
  Ends "int" Ruleset.defaultMaxDepth False answer expected

theorem reduces_some {β : Type} {answer : Except Diagnostic β} {expected : β} :
    Reduces answer (some expected) ↔ answer = .ok expected := by
  constructor
  · intro reduces
    cases reduces with
    | done => rfl
    | tooDeep never => exact never.elim
  · rintro rfl
    exact .done

theorem reduces_none {β : Type} {answer : Except Diagnostic β} :
    Reduces answer none ↔
      ∃ diagnostic shown reason, answer = .error diagnostic ∧
        diagnostic.cause = .malformedBinding "int" shown reason := by
  constructor
  · intro reduces
    cases reduces with
    | malformed cause => exact ⟨_, _, _, rfl, cause⟩
    | tooDeep never => exact never.elim
  · rintro ⟨diagnostic, shown, reason, rfl, cause⟩
    exact .malformed cause

theorem maxDepth_eq : Part.ruleset.maxDepth = Ruleset.defaultMaxDepth := rfl

section

variable {setting : Ruleset.Setting Part} {depth : Nat}

theorem reduces_atom {slice : Slice} (room : depth < Ruleset.defaultMaxDepth) :
    Reduces (Part.ruleset.reduce setting depth (.atom slice)) (some (.atom slice)) :=
  .atom maxDepth_eq (fun beyond => by omega) .done

theorem reduces_leaf {name : String} {slice : Slice} {expected : Option (Tree Part)}
    (room : depth + 1 < Ruleset.defaultMaxDepth)
    (node : Reduces (Ruleset.reduceNode setting Part.ruleset.rules (.record [(name, .atom slice)]))
      expected) :
    Reduces (Part.ruleset.reduce setting depth (.record [(name, .atom slice)])) expected := by
  have inside := @reduces_atom setting (depth + 1) slice room
  refine .record maxDepth_eq (fun beyond => by omega) (inside.entries_cons name .entries_nil) nofun ?_
  intro _ same
  cases same
  exact node

def intRule : TreeRule Part := Part.ruleset.rules[4]

def keyRule : TreeRule Part := Part.ruleset.rules[6]

theorem build_int (slice : Slice) :
    (intRule.build.run [("i", .atom slice)]).1 =
      (readInteger slice.text).map fun number => argumentTree (.int number) := by
  have unfolded : intRule.build.run [("i", .atom slice)] =
      ExceptT.run ((liftM (readInteger slice.text) : Builder Part Int64) >>= fun number =>
        pure (argumentTree (.int number))) [("i", .atom slice)] := rfl
  rw [unfolded]
  cases readInteger slice.text <;> rfl

theorem node_int {digits : List Char} (numeral : Numeral digits) {slice : Slice}
    (sameText : slice.text = .ofList digits) :
    Reduces (Ruleset.reduceNode setting Part.ruleset.rules (.record [("int", .atom slice)]))
      ((Integer.number? digits).map fun number => argumentTree (.int number)) := by
  have matched : intRule.shape.match? (.record [("int", (.atom slice : Tree Part))]) =
      some [("i", .atom slice)] := rfl
  have fifth : Ruleset.reduceNode setting Part.ruleset.rules (.record [("int", .atom slice)]) =
      Ruleset.reduceNode setting (intRule :: Part.ruleset.rules.drop 5)
        (.record [("int", .atom slice)]) := rfl
  rw [fifth]
  exact ends_of_readInteger rfl matched (build_int slice) numeral sameText

theorem node_keyed (key : Slice) (argument : Argument) :
    Ruleset.reduceNode setting Part.ruleset.rules
        (.record [("key_value", .record [("key", .atom key), ("value", argumentTree argument)])]) =
      .ok (argumentTree (.keyValue key.text argument)) := by
  have matched : keyRule.shape.match?
      (.record [("key_value", .record [("key", .atom key), ("value", argumentTree argument)])]) =
        some [("key", .atom key), ("value", argumentTree argument)] := by
    simp (disch := decide) [keyRule, Part.ruleset, Ruleset.ofRules, Shape.match?, Shape.bind?,
      Shape.bindFields?, Entries.lookup, List.lookup_cons, Tree.isSimple, Bindings.bind?, argumentTree,
      Entries.insert_nil, Entries.insert_of_gt]
  have seventh : Ruleset.reduceNode setting Part.ruleset.rules
      (.record [("key_value", .record [("key", .atom key), ("value", argumentTree argument)])]) =
        Ruleset.reduceNode setting (keyRule :: Part.ruleset.rules.drop 7)
          (.record
            [("key_value", .record [("key", .atom key), ("value", argumentTree argument)])]) := rfl
  rw [seventh, Ruleset.reduceNode, matched]
  rfl

end

theorem Literal.Pictures.reduces {value : Literal} {capture : Capture}
    (pictures : value.Pictures capture) (setting : Ruleset.Setting Part) {depth : Nat}
    (room : depth + 1 < Ruleset.defaultMaxDepth) :
    Reduces (Part.ruleset.reduce setting depth (.ofCapture capture))
      (value.argument?.map argumentTree) := by
  cases pictures with
  | int numeral sameText =>
      rw [Literal.argument?, Option.map_map]
      exact reduces_leaf room (node_int numeral sameText)
  | str sameText =>
      rw [Literal.argument?, ← sameText]
      exact reduces_leaf room .done

theorem Phrase.Pictures.reduces {phrase : Phrase} {capture : Capture}
    (pictures : phrase.Pictures capture) (setting : Ruleset.Setting Part) {depth : Nat}
    (room : depth + 3 < Ruleset.defaultMaxDepth) :
    Reduces (Part.ruleset.reduce setting depth (.ofCapture capture))
      (phrase.argument?.map argumentTree) := by
  cases pictures with
  | plain pictured => exact pictured.reduces setting (by omega)
  | bare sameText =>
      rw [Phrase.argument?, ← sameText]
      exact reduces_leaf (by omega) .done
  | @keyed key slice value capture sameKey pictured =>
      have keyReduces : Reduces (Part.ruleset.reduce setting (depth + 2) (.atom slice))
          (some (.atom slice)) := reduces_atom (by omega)
      have valueReduces : Reduces (Part.ruleset.reduce setting (depth + 2) (.ofCapture capture))
          (value.argument?.map argumentTree) := pictured.reduces setting (by omega)
      have pairReduces : Reduces (Part.ruleset.reduceEntries setting (depth + 2)
          [("key", .atom slice), ("value", .ofCapture capture)])
          (value.argument?.map fun argument =>
            [("key", .atom slice), ("value", argumentTree argument)]) := by
        have both := keyReduces.entries_cons "key" (valueReduces.entries_cons "value" .entries_nil)
        cases known : value.argument? <;> simpa [known] using both
      have insideReduces := pairReduces.record_map maxDepth_eq (fun beyond => by omega) fun _ => rfl
      have reduces := (insideReduces.entry_map "key_value").record_map maxDepth_eq
        (fun beyond => by omega) fun argument => node_keyed slice argument
      rw [Phrase.argument?, Option.map_map, ← sameKey]
      exact reduces

theorem reduces_arguments {phrases : List Phrase} {captures : List Capture}
    (pictures : List.Forall₂ Phrase.Pictures phrases captures) (setting : Ruleset.Setting Part)
    {depth : Nat} (room : depth + 3 < Ruleset.defaultMaxDepth) :
    Reduces (Part.ruleset.reduceItems setting depth (Tree.ofItems captures))
      ((arguments? phrases).map fun arguments => arguments.map argumentTree) := by
  induction pictures with
  | nil => exact .done
  | @cons phrase capture phrases captures first _ ih =>
      have both := (first.reduces setting room).items_cons ih
      rw [Tree.ofItems, arguments?]
      cases known : phrase.argument? with
      | none => simpa [known] using both
      | some argument => cases later : arguments? phrases <;> simpa [known, later] using both

end PegText.Language.Directive
