import PegText.Language.Expression
import PegText.Proofs.Language.Tokens
import PegText.Proofs.Text.Integer
import PegText.Proofs.Tree.Reduction

/-!
How expressions are written. A phrase is an expression with its numbers as they are written; it
is spelled by any text with blanks in the right places, it stands for an expression if all its
numbers are in range, and a capture that pictures it is reduced to that expression.
-/

namespace PegText.Language.Expression

open CharClass (isIdentifierLetter)
open Ruleset (Ends)

inductive Phrase
  | int (digits : List Char)
  | str (content : List Char)
  | sum (digits : List Char) (right : Phrase)
  | call (name : List Char) (arguments : List Phrase)

def Identifier (text : List Char) : Prop := text ≠ [] ∧ ∀ c ∈ text, isIdentifierLetter c = true

mutual

inductive Spells : Phrase → List Char → Prop
  | int {digits blanks} : Numeral digits → Blank blanks → Spells (.int digits) (digits ++ blanks)
  | str {quote content blanks} : quote = '\'' ∨ quote = '"' → quote ∉ content → Blank blanks →
      Spells (.str content) (quote :: (content ++ [quote]) ++ blanks)
  | sum {digits blanks more right text} : Numeral digits → Blank blanks → Blank more →
      Spells right text →
      Spells (.sum digits right) (digits ++ blanks ++ ('+' :: more) ++ text)
  | call {name blanks arguments text more} : Identifier name → Blank blanks →
      SpellsAll arguments text → Blank more →
      Spells (.call name arguments) (name ++ ('(' :: blanks) ++ text ++ (')' :: more))

inductive SpellsAll : List Phrase → List Char → Prop
  | nil : SpellsAll [] []
  | cons {first text rest more} : Spells first text → SpellsMore rest more →
      SpellsAll (first :: rest) (text ++ more)

inductive SpellsMore : List Phrase → List Char → Prop
  | nil : SpellsMore [] []
  | cons {blanks next text rest more} : Blank blanks → Spells next text → SpellsMore rest more →
      SpellsMore (next :: rest) ((',' :: blanks) ++ text ++ more)

end

namespace Phrase

mutual

def expr? : Phrase → Option Expr
  | int digits => (Integer.number? digits).map .int
  | str content => some (.str (.ofList content))
  | sum digits right =>
      (Integer.number? digits).bind fun number => right.expr?.map (.add (.int number))
  | call name parts => (exprs? parts).map (.call (.ofList name))

def exprs? : List Phrase → Option (List Expr)
  | [] => some []
  | first :: rest => first.expr?.bind fun expr => (exprs? rest).map (expr :: ·)

end

end Phrase

mutual

inductive Pictures : Phrase → Capture → Prop
  | int {digits slice} : Numeral digits → slice.text = .ofList digits →
      Pictures (.int digits) (.tagged "int" (.atom slice))
  | str {content slice} : slice.text = .ofList content →
      Pictures (.str content) (.tagged "string" (.atom slice))
  | sum {digits left sign right capture} : Numeral digits → left.text = .ofList digits →
      sign.text = "+" → Pictures right capture →
      Pictures (.sum digits right)
        (.record [("left", .tagged "int" (.atom left)), ("op", .atom sign), ("right", capture)])
  | call {name slice arguments captures} : slice.text = .ofList name →
      PicturesAll arguments captures →
      Pictures (.call name arguments)
        (.record [("arglist", .list captures), ("funcall", .atom slice)])

inductive PicturesAll : List Phrase → List Capture → Prop
  | nil : PicturesAll [] []
  | cons {phrase capture phrases captures} : Pictures phrase capture →
      PicturesAll phrases captures → PicturesAll (phrase :: phrases) (capture :: captures)

end

mutual

theorem Pictures.unique {phrase other : Phrase} {capture : Capture}
    (pictures : Pictures phrase capture) (same : Pictures other capture) : phrase = other := by
  generalize equal : capture = shown at same
  cases pictures with
  | int _ sameText =>
      cases same with
      | int _ sameOther =>
          cases equal
          rw [String.ofList_inj.mp (sameText.symm.trans sameOther)]
      | _ => simp at equal
  | str sameText =>
      cases same with
      | str sameOther =>
          cases equal
          rw [String.ofList_inj.mp (sameText.symm.trans sameOther)]
      | _ => simp at equal
  | sum _ sameText _ right =>
      cases same with
      | sum _ sameOther _ otherRight =>
          cases equal
          rw [String.ofList_inj.mp (sameText.symm.trans sameOther), right.unique otherRight]
      | _ => simp at equal
  | call sameText arguments =>
      cases same with
      | call sameOther otherArguments =>
          cases equal
          rw [String.ofList_inj.mp (sameText.symm.trans sameOther),
            arguments.unique otherArguments]
      | _ => simp at equal

theorem PicturesAll.unique {phrases others : List Phrase} {captures : List Capture}
    (pictures : PicturesAll phrases captures) (same : PicturesAll others captures) :
    phrases = others := by
  cases pictures with
  | nil =>
      cases same
      rfl
  | cons first rest =>
      cases same with
      | cons otherFirst otherRest => rw [first.unique otherFirst, rest.unique otherRest]

end

theorem readInteger_eq {digits : List Char} (numeral : Numeral digits) :
    readInteger (.ofList digits) =
      match Integer.number? digits with
      | some number => .ok number
      | none => .error (.invalid s!"'{String.ofList digits}' is not a 64-bit integer: {
          Integer.Error.tooLarge.message}") := by
  rw [readInteger, Integer.read_eq numeral.1 numeral.2]
  cases Integer.number? digits <;> rfl

section

variable {α : Type} [BEq α] {setting : Ruleset.Setting α} {limit : Nat} {high : Prop}

theorem ends_of_readInteger {rule : TreeRule α} {rest : List (TreeRule α)} {tree : Tree α}
    {bindings : Bindings α} {make : Int64 → Tree α} {digits : List Char} {slice : Slice}
    (called : rule.name = "int") (matched : rule.shape.match? tree = some bindings)
    (built : (rule.build.run bindings).1 = (readInteger slice.text).map make)
    (numeral : Numeral digits) (sameText : slice.text = .ofList digits) :
    Ends "int" limit high (Ruleset.reduceNode setting (rule :: rest) tree)
      ((Integer.number? digits).map make) := by
  rw [Ruleset.reduceNode, matched]
  simp only [built, sameText, readInteger_eq numeral]
  cases Integer.number? digits with
  | none =>
      rw [← called]
      exact .malformed (Diagnostic.cause_locate _ _ _)
  | some number => exact .done

end

def bounded (limit : Nat) : Ruleset Expr := { ruleset with maxDepth := limit }

theorem maxDepth_bounded (limit : Nat) : (bounded limit).maxDepth = limit := rfl

theorem rules_bounded (limit : Nat) : (bounded limit).rules = ruleset.rules := rfl

section

variable {setting : Ruleset.Setting Expr} {limit depth : Nat} {high : Prop}

def intRule : TreeRule Expr := ruleset.rules[0]

def sumRule : TreeRule Expr := ruleset.rules[2]

def callRule : TreeRule Expr := ruleset.rules[3]

theorem build_int (slice : Slice) :
    (intRule.build.run [("int", .atom slice)]).1 =
      (readInteger slice.text).map fun number => .value (.int number) := by
  have unfolded : intRule.build.run [("int", .atom slice)] =
      ExceptT.run ((liftM (readInteger slice.text) : Builder Expr Int64) >>= fun number =>
        pure (.value (.int number))) [("int", .atom slice)] := rfl
  rw [unfolded]
  cases readInteger slice.text <;> rfl

theorem node_int {digits : List Char} (numeral : Numeral digits) {slice : Slice}
    (sameText : slice.text = .ofList digits) :
    Ends "int" limit high
      (Ruleset.reduceNode setting ruleset.rules (.record [("int", .atom slice)]))
      (((Integer.number? digits).map .int).map .value) := by
  have matched : intRule.shape.match? (.record [("int", (.atom slice : Tree Expr))]) =
      some [("int", .atom slice)] := rfl
  have first : ruleset.rules = intRule :: ruleset.rules.tail := rfl
  rw [first, Option.map_map]
  exact ends_of_readInteger rfl matched (build_int slice) numeral sameText

theorem node_sum (left right : Expr) {sign : Slice} (plus : sign.text = "+") :
    Ruleset.reduceNode setting ruleset.rules
        (.record [("left", .value left), ("op", .atom sign), ("right", .value right)]) =
      .ok (.value (.add left right)) := by
  have matched : sumRule.shape.match?
      (.record [("left", .value left), ("op", .atom sign), ("right", .value right)]) =
        some [("left", .value left), ("right", .value right)] := by
    simp (disch := decide) [sumRule, ruleset, Ruleset.ofRules, Shape.match?, Shape.bind?,
      Shape.bindFields?, Entries.lookup, List.lookup_cons, Tree.isSimple, Bindings.bind?,
      Entries.insert_nil, Entries.insert_of_gt, plus]
  have third : Ruleset.reduceNode setting ruleset.rules
      (.record [("left", .value left), ("op", .atom sign), ("right", .value right)]) =
        Ruleset.reduceNode setting (sumRule :: ruleset.rules.drop 3)
          (.record [("left", .value left), ("op", .atom sign), ("right", .value right)]) := rfl
  rw [third, Ruleset.reduceNode, matched]
  rfl

theorem valuesOf_map (name : String) (values : List Expr) :
    Builder.valuesOf name (values.map Tree.value) = pure values := by
  induction values with
  | nil => rfl
  | cons value rest ih => rw [List.map_cons, Builder.valuesOf, ih, pure_bind]

theorem node_call (arguments : List Expr) (name : Slice) :
    Ruleset.reduceNode setting ruleset.rules
        (.record [("arglist", .list (arguments.map .value)), ("funcall", .atom name)]) =
      .ok (.value (.call name.text arguments)) := by
  have simple : (arguments.map Tree.value).all Tree.isSimple = true := by
    simp [Tree.isSimple]
  have matched : callRule.shape.match?
      (.record [("arglist", .list (arguments.map Tree.value)), ("funcall", .atom name)]) =
        some [("args", .list (arguments.map Tree.value)), ("name", .atom name)] := by
    simp (disch := decide) [callRule, ruleset, Ruleset.ofRules, Shape.match?, Shape.bind?,
      Shape.bindFields?, Entries.lookup, List.lookup_cons, Tree.isSimple, Bindings.bind?,
      Entries.insert_nil, Entries.insert_of_lt, simple]
  have last : Ruleset.reduceNode setting ruleset.rules
      (.record [("arglist", .list (arguments.map .value)), ("funcall", .atom name)]) =
        Ruleset.reduceNode setting [callRule]
          (.record [("arglist", .list (arguments.map .value)), ("funcall", .atom name)]) := rfl
  have built : callRule.build.run
      [("args", .list (arguments.map Tree.value)), ("name", .atom name)] =
        ExceptT.run (Builder.valuesOf "args" (arguments.map Tree.value) >>= fun arguments =>
          pure (.value (.call name.text arguments))) [("name", .atom name)] := rfl
  rw [last, Ruleset.reduceNode, matched]
  simp only [built, valuesOf_map, pure_bind]
  rfl

theorem ends_leaf {name : String} {slice : Slice} {expected : Option (Tree Expr)}
    (tall : limit < depth + 2 → high)
    (node : Ends "int" limit high
      (Ruleset.reduceNode setting ruleset.rules (.record [(name, .atom slice)])) expected) :
    Ends "int" limit high ((bounded limit).reduce setting depth (.record [(name, .atom slice)]))
      expected := by
  have beyond {levels : Nat} (few : levels ≤ depth + 1) (reached : limit ≤ levels) : high :=
    tall (by omega)
  have inside : Ends "int" limit high
      ((bounded limit).reduce setting (depth + 1) (.atom slice)) (some (.atom slice)) :=
    .atom (maxDepth_bounded limit) (beyond (Nat.le_refl _)) .done
  refine .record (maxDepth_bounded limit) (beyond (Nat.le_succ depth))
    (inside.entries_cons name .entries_nil) nofun ?_
  intro _ same
  cases same
  exact node

end

mutual

/-- A capture that pictures a phrase is reduced to the expression that the phrase stands for. -/
theorem Pictures.ends {phrase : Phrase} {capture : Capture} (pictures : Pictures phrase capture)
    (setting : Ruleset.Setting Expr) (limit depth : Nat) :
    Ends "int" limit (limit < depth + (Tree.ofCapture capture : Tree Expr).height)
      ((bounded limit).reduce setting depth (.ofCapture capture)) (phrase.expr?.map .value) := by
  cases pictures with
  | int numeral sameText => exact ends_leaf id (node_int numeral sameText)
  | str sameText =>
      rw [Phrase.expr?, ← sameText]
      exact ends_leaf id .done
  | @sum digits left sign right capture numeral sameText plus pictured =>
      have height : (Tree.ofCapture (.record
          [("left", .tagged "int" (.atom left)), ("op", .atom sign), ("right", capture)]) :
            Tree Expr).height = max 2 (max 1 (max (Tree.ofCapture capture : Tree Expr).height 0)) + 1 :=
        rfl
      rw [height]
      -- each entry is cut off by the height of its own tree, and the record by the greatest of them
      have leftEnds := @ends_leaf setting limit (depth + 1) _ "int" left _ id
        (node_int numeral sameText)
      have signEnds : Ends "int" limit (limit ≤ depth + 1)
          ((bounded limit).reduce setting (depth + 1) (.atom sign)) (some (.atom sign)) :=
        .atom (maxDepth_bounded limit) id .done
      have rightEnds := pictured.ends setting limit (depth + 1)
      refine .record (maxDepth_bounded limit) (fun beyond => by omega)
        ((leftEnds.mono fun beyond => by omega).entries_cons "left"
          ((signEnds.mono fun beyond => by omega).entries_cons "op"
            ((rightEnds.mono fun beyond => by omega).entries_cons "right" .entries_nil))) ?_ ?_
      all_goals rw [Phrase.expr?]
      · cases Integer.number? digits <;> cases right.expr? <;> simp
      · intro entries same
        cases first : Integer.number? digits with
        | none => simp [first] at same
        | some number =>
            cases second : right.expr? with
            | none => simp [second] at same
            | some expr =>
                simp only [first, second, Option.map_some, Option.bind_some,
                  Option.some.injEq] at same
                rw [← same, rules_bounded, node_sum _ _ plus]
                exact .done
  | @call name slice arguments captures sameName pictured =>
      have height : (Tree.ofCapture (.record
          [("arglist", .list captures), ("funcall", .atom slice)]) : Tree Expr).height =
            max (Tree.itemsHeight (Tree.ofItems captures : List (Tree Expr)) + 1) (max 1 0) + 1 :=
        rfl
      rw [height]
      have argumentsEnd := pictured.ends setting limit (depth + 2)
      have listEnds : Ends "int" limit
          (limit < depth + 2 + Tree.itemsHeight (Tree.ofItems captures : List (Tree Expr)))
          ((bounded limit).reduce setting (depth + 1) (.list (Tree.ofItems captures)))
          ((Phrase.exprs? arguments).map fun exprs => .list (exprs.map .value)) :=
        argumentsEnd.list_map (maxDepth_bounded limit) (fun beyond => by omega) fun _ => rfl
      have nameEnds : Ends "int" limit (limit ≤ depth + 1)
          ((bounded limit).reduce setting (depth + 1) (.atom slice)) (some (.atom slice)) :=
        .atom (maxDepth_bounded limit) id .done
      have entriesEnd : Ends "int" limit
          (limit < depth + 2 + Tree.itemsHeight (Tree.ofItems captures : List (Tree Expr)))
          ((bounded limit).reduceEntries setting (depth + 1)
            [("arglist", .list (Tree.ofItems captures)), ("funcall", .atom slice)])
          ((Phrase.exprs? arguments).map fun exprs =>
            [("arglist", .list (exprs.map .value)), ("funcall", .atom slice)]) := by
        have both := listEnds.entries_cons "arglist"
          ((nameEnds.mono fun beyond => by omega).entries_cons "funcall" .entries_nil)
        cases known : Phrase.exprs? arguments <;> simpa [known] using both
      rw [Phrase.expr?, Option.map_map, ← sameName]
      exact (entriesEnd.mono fun beyond => by omega).record_map (maxDepth_bounded limit)
        (fun beyond => by omega) fun exprs => node_call exprs slice

theorem PicturesAll.ends {phrases : List Phrase} {captures : List Capture}
    (pictures : PicturesAll phrases captures) (setting : Ruleset.Setting Expr) (limit depth : Nat) :
    Ends "int" limit (limit < depth + Tree.itemsHeight (Tree.ofItems captures : List (Tree Expr)))
      ((bounded limit).reduceItems setting depth (Tree.ofItems captures))
      ((Phrase.exprs? phrases).map fun exprs => exprs.map .value) := by
  cases pictures with
  | nil => exact .done
  | @cons phrase capture phrases captures first rest =>
      have height : Tree.itemsHeight (Tree.ofItems (capture :: captures) : List (Tree Expr)) =
          max (Tree.ofCapture capture : Tree Expr).height
            (Tree.itemsHeight (Tree.ofItems captures)) := rfl
      rw [height, Phrase.exprs?]
      have firstEnds := first.ends setting limit depth
      have restEnd := rest.ends setting limit depth
      have both : Ends "int" limit
          (limit < depth + max (Tree.ofCapture capture : Tree Expr).height
            (Tree.itemsHeight (Tree.ofItems captures : List (Tree Expr))))
          ((bounded limit).reduceItems setting depth (Tree.ofItems (capture :: captures))) _ :=
        (firstEnds.mono fun beyond => by omega).items_cons (restEnd.mono fun beyond => by omega)
      cases known : phrase.expr? with
      | none => simpa [known] using both
      | some expr => cases later : Phrase.exprs? phrases <;> simpa [known, later] using both

end

end PegText.Language.Expression
