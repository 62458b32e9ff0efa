import PegText.Proofs.Language.Spelling

/-!
Reading an expression from its source. Within limits that are wide enough a text that spells a
phrase is read as the expression it stands for, one with a number out of range is refused because
of that number, and any other text because it is no expression.
-/

namespace PegText.Language.Expression

open RuleTable
open Ruleset (Ends)

def reading (source : Source) (limit depth : Nat) : Except Diagnostic (Tree Expr) := do
  let capture ← grammar.parseNested none source limit
  (bounded depth).applyCapture (setting (some source)) capture

theorem parseNested_eq (source : Source) (limit : Nat) :
    parseNested source limit = (reading source limit Ruleset.defaultMaxDepth).bind Tree.value? := by
  have wide : bounded Ruleset.defaultMaxDepth = ruleset := rfl
  rw [parseNested, reading, wide]
  cases grammar.parseNested none source limit <;> rfl

def cause? {α : Type} : Except Diagnostic α → Option Cause
  | .ok _ => none
  | .error diagnostic => some diagnostic.cause

def Limited (limit depth : Nat) (answer : Except Diagnostic (Tree Expr)) : Prop :=
  cause? answer = some (.nestingLimit limit) ∨ cause? answer = some (.treeDepthLimit depth)

mutual

theorem Pictures.height_le {phrase : Phrase} {capture : Capture} (pictures : Pictures phrase capture)
    {text : List Char} (spells : Spells phrase text) :
    (Tree.ofCapture capture : Tree Expr).height ≤ text.length + 1 := by
  cases pictures with
  | @int digits slice =>
      have height : (Tree.ofCapture (.tagged "int" (.atom slice)) : Tree Expr).height = 2 := rfl
      cases spells with
      | int numeral =>
          have filled := List.length_pos_iff.mpr numeral.1
          rw [height, List.length_append]
          omega
  | @str content slice =>
      have height : (Tree.ofCapture (.tagged "string" (.atom slice)) : Tree Expr).height = 2 := rfl
      cases spells with
      | str =>
          simp only [height, List.length_append, List.length_cons]
          omega
  | @sum digits left sign right capture _ _ _ pictured =>
      have height : (Tree.ofCapture (.record
          [("left", .tagged "int" (.atom left)), ("op", .atom sign), ("right", capture)]) :
            Tree Expr).height = max 2 (max 1 (max (Tree.ofCapture capture : Tree Expr).height 0)) + 1 :=
        rfl
      cases spells with
      | sum numeral _ _ spellsRight =>
          have below := pictured.height_le spellsRight
          have filled := List.length_pos_iff.mpr numeral.1
          simp only [height, List.length_append, List.length_cons]
          omega
  | @call name slice arguments captures _ pictured =>
      have height : (Tree.ofCapture (.record
          [("arglist", .list captures), ("funcall", .atom slice)]) : Tree Expr).height =
            max (Tree.itemsHeight (Tree.ofItems captures : List (Tree Expr)) + 1) (max 1 0) + 1 :=
        rfl
      cases spells with
      | call identifier _ spellsAll =>
          have below := pictured.height_le spellsAll
          have filled := List.length_pos_iff.mpr identifier.1
          simp only [height, List.length_append, List.length_cons]
          omega

theorem PicturesAll.height_le {phrases : List Phrase} {captures : List Capture}
    (pictures : PicturesAll phrases captures) {text : List Char}
    (spells : SpellsAll phrases text) :
    Tree.itemsHeight (Tree.ofItems captures : List (Tree Expr)) ≤ text.length + 1 := by
  cases pictures with
  | nil => exact Nat.zero_le _
  | cons first rest =>
      cases spells with
      | cons spellsFirst spellsMore =>
          have here := first.height_le spellsFirst
          have behind := rest.height_le_more spellsMore
          simp only [Tree.ofItems, Tree.itemsHeight, List.length_append]
          omega

theorem PicturesAll.height_le_more {phrases : List Phrase} {captures : List Capture}
    (pictures : PicturesAll phrases captures) {text : List Char}
    (spells : SpellsMore phrases text) :
    Tree.itemsHeight (Tree.ofItems captures : List (Tree Expr)) ≤ text.length + 1 := by
  cases pictures with
  | nil => exact Nat.zero_le _
  | cons first rest =>
      cases spells with
      | cons _ spellsNext spellsMore =>
          have here := first.height_le spellsNext
          have behind := rest.height_le_more spellsMore
          simp only [Tree.ofItems, Tree.itemsHeight, List.length_append, List.length_cons]
          omega

end

section

variable (source : Source) (limit depth : Nat)

abbrev checked : Grammar :=
  ⟨draft.name, draft.rules.length, rules, named "expression", draft.maxNesting⟩

theorem reading_eq :
    reading source limit depth =
      (checked.parseWith (named "expression") source limit).bind
        ((bounded depth).applyCapture (setting (some source))) := by
  rw [reading, grammar_eq]
  rfl

theorem Spells.unique {phrase other : Phrase} {text : List Char} (spells : Spells phrase text)
    (same : Spells other text) : phrase = other := by
  rw [← String.toList_ofList (l := text)] at spells same
  obtain ⟨output, stop, found, -, pictures⟩ := spells_iff.mp spells
  obtain ⟨_, _, foundOther, -, picturesOther⟩ := spells_iff.mp same
  obtain ⟨rfl, -⟩ := found.unique foundOther
  exact pictures.unique picturesOther

theorem reading_ends :
    (limit < (source.text.utf8ByteSize + 1) * rules.nodeCount ∧
      cause? (reading source limit depth) = some (.nestingLimit limit)) ∨
    ((∀ phrase, ¬Spells phrase source.text.toList) ∧ ∃ expected found,
      cause? (reading source limit depth) = some (.unexpectedInput expected found)) ∨
    ∃ phrase, Spells phrase source.text.toList ∧
      Ends "int" depth (depth < source.text.toList.length + 1) (reading source limit depth)
        (phrase.expr?.map .value) := by
  rw [reading_eq]
  cases settled : (checked.run (named "expression") source.text limit).2.exceeded with
  | some position =>
      left
      constructor
      · by_contra enough
        have ends := Grammar.Draft.parse_ends build?_draft (named "expression") source
          (Nat.not_lt.mp enough)
        rw [ends.1] at settled
        cases settled
      · rw [Grammar.parseWith, Grammar.conclude_of_exceeded source limit settled]
        rfl
  | none =>
      right
      have parses {capture : Capture} :=
        @Grammar.parseWith_eq_ok checked facts (named "expression") source limit accepted settled
          capture
      by_cases spelled : ∃ phrase, Spells phrase source.text.toList
      · right
        obtain ⟨phrase, spells⟩ := spelled
        obtain ⟨output, stop, found, ended, pictures⟩ := spells_iff.mp spells
        have parsed := parses.mpr ⟨output, stop, found, ended, rfl⟩
        refine ⟨phrase, spells, ?_⟩
        rw [parsed]
        refine (pictures.ends (setting (some source)) depth 0).mono fun high => ?_
        have low := pictures.height_le spells
        omega
      · left
        refine ⟨not_exists.mp spelled, ?_⟩
        rcases Grammar.conclude_of_settled source limit settled with
          ⟨capture, parsed⟩ | ⟨diagnostic, expected, found, parsed, cause⟩
        · obtain ⟨output, stop, found, ended, -⟩ := parses.mp parsed
          obtain ⟨phrase, text, _, passes, spells, -⟩ := expression_spelled found
          obtain ⟨rfl, -⟩ := passes.of_ended ended
          exact (spelled ⟨phrase, spells⟩).elim
        · have same : checked.parseWith (named "expression") source limit = .error diagnostic :=
            parsed
          rw [same]
          exact ⟨expected, found, congrArg some cause⟩

/-- What is read, and why nothing is. Limits that are wide for the length of a source are not met;
where none is met, an expression is read exactly from what spells it with all numbers in range, a
number out of range is the only thing wrong with any other phrase, and what spells no phrase is no
valid input. -/
theorem reading_iff :
    ((source.text.utf8ByteSize + 1) * rules.nodeCount ≤ limit →
      source.text.toList.length + 1 ≤ depth → ¬Limited limit depth (reading source limit depth)) ∧
    (¬Limited limit depth (reading source limit depth) →
      (∀ expr, reading source limit depth = .ok (.value expr) ↔
        ∃ phrase, Spells phrase source.text.toList ∧ phrase.expr? = some expr) ∧
      ((∃ shown reason,
          cause? (reading source limit depth) = some (.malformedBinding "int" shown reason)) ↔
        ∃ phrase, Spells phrase source.text.toList ∧ phrase.expr? = none) ∧
      ((∃ expected found,
          cause? (reading source limit depth) = some (.unexpectedInput expected found)) ↔
        ∀ phrase, ¬Spells phrase source.text.toList)) := by
  have ends := reading_ends source limit depth
  generalize reading source limit depth = answer at ends
  rcases ends with ⟨few, cause⟩ | ⟨unspelled, expected, found, cause⟩ | ⟨phrase, spells, ends⟩
  · constructor
    · intro enough
      omega
    · intro free
      exact (free (.inl cause)).elim
  · have refused (expr : Expr) : answer ≠ .ok (.value expr) := by
      rintro rfl
      cases cause
    simp [Limited, cause, unspelled, refused]
  · -- the phrase is the only one that the text spells
    have spelled {meaning : Phrase → Prop} :
        (∃ other, Spells other source.text.toList ∧ meaning other) ↔ meaning phrase := by
      constructor
      · rintro ⟨other, same, meant⟩
        exact same.unique spells ▸ meant
      · intro meant
        exact ⟨phrase, spells, meant⟩
    have spellable : ¬∀ phrase, ¬Spells phrase source.text.toList := fun none => none phrase spells
    simp only [spelled, spellable, iff_false, not_exists]
    generalize known : phrase.expr?.map Tree.value = expected at ends
    cases ends with
    | done =>
        obtain ⟨expr, meant, rfl⟩ := Option.map_eq_some_iff.mp known
        simp [Limited, cause?, meant]
    | malformed cause =>
        have unmeant := Option.map_eq_none_iff.mp known
        simp [Limited, cause?, cause, unmeant]
    | tooDeep high cause =>
        constructor
        · intro _ wide
          omega
        · intro free
          exact (free (.inr (congrArg Option.some cause))).elim

end

theorem spells_call :
    Spells (.call ['f'] [.sum ['2'] (.int ['3']), .str ['a']]) "f( 2+3, 'a')".toList := by
  have three : Spells (.int ['3']) (['3'] ++ []) := .int ⟨by simp, List.all_eq_true.mp (by decide)⟩ nofun
  have sum : Spells (.sum ['2'] (.int ['3'])) (['2'] ++ [] ++ ('+' :: []) ++ ['3']) :=
    .sum ⟨by simp, List.all_eq_true.mp (by decide)⟩ nofun nofun three
  have quoted : Spells (.str ['a']) ('\'' :: (['a'] ++ ['\'']) ++ []) :=
    .str (.inl rfl) (by decide) nofun
  have more : SpellsMore [.str ['a']] ((',' :: [' ']) ++ "'a'".toList ++ []) :=
    .cons Blank.space quoted .nil
  have call : Spells (.call ['f'] [.sum ['2'] (.int ['3']), .str ['a']])
      (['f'] ++ ('(' :: [' ']) ++ ("2+3".toList ++ ", 'a'".toList) ++ (')' :: [])) :=
    .call ⟨by simp, List.all_eq_true.mp (by decide)⟩ Blank.space (.cons sum more) nofun
  exact call

theorem reading_iff_call :
    reading (.ofInput "f( 2+3, 'a')") 2000 20 =
      .ok (.value (.call "f" [.add (.int 2) (.int 3), .str "a"])) := by
  have ⟨wide, reads⟩ := reading_iff (.ofInput "f( 2+3, 'a')") 2000 20
  have free := wide (by decide +kernel) (by decide +kernel)
  exact ((reads free).1 _).mpr ⟨_, spells_call, rfl⟩

end PegText.Language.Expression
