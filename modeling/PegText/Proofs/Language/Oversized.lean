import PegText.Proofs.Language.Reading
import PegText.Proofs.Parse.FieldOrder
import PegText.Proofs.Tree.Blame

/-!
Integers that 64 bits do not hold, in expressions. The integers of a tree are listed as a reduction
comes to them. In the tree of an expression that is their order in the source, so the first one
that is too large is the one that the refusal points at.
-/

namespace PegText

namespace Capture

def integer? : Capture → Option Slice
  | tagged name (atom slice) => if name = "int" then some slice else none
  | _ => none

mutual

/-- The integers that are captured, in the order in which a reduction comes to them. -/
def integers : Capture → List Slice
  | atom _ => []
  | tagged name value => (tagged name value).integer?.toList ++ value.integers
  | record entries => integersOfEntries entries
  | list items => integersOfItems items

def integersOfEntries : List (String × Capture) → List Slice
  | [] => []
  | (_, value) :: rest => value.integers ++ integersOfEntries rest

def integersOfItems : List Capture → List Slice
  | [] => []
  | item :: rest => item.integers ++ integersOfItems rest

end

def HasInteger (capture : Capture) (slice : Slice) : Prop :=
  Inside (.tagged "int" (.atom slice)) capture

variable {slice : Slice}

theorem integer?_eq_some {capture : Capture} :
    capture.integer? = some slice ↔ capture = .tagged "int" (.atom slice) := by
  constructor
  · intro known
    match capture with
    | .tagged name (.atom other) =>
        by_cases same : name = "int"
        · simp only [integer?, if_pos same, Option.some.injEq] at known
          rw [same, known]
        · simp [integer?, same] at known
    | .atom _ | .record _ | .list _ | .tagged _ (.tagged _ _) | .tagged _ (.record _)
    | .tagged _ (.list _) => cases known
  · rintro rfl
    rfl

mutual

theorem mem_integers (capture : Capture) : slice ∈ capture.integers ↔ capture.HasInteger slice := by
  match capture with
  | .atom other =>
      simp only [integers, List.not_mem_nil, false_iff]
      rintro ⟨⟩
  | .tagged name value =>
      rw [integers, List.mem_append, Option.mem_toList, integer?_eq_some,
        mem_integers value]
      constructor
      · rintro (same | inside)
        · rw [same]
          exact .here
        · exact .tagged inside
      · intro inside
        cases inside with
        | here => exact .inl rfl
        | tagged deeper => exact .inr deeper
  | .record entries =>
      rw [integers, mem_integersOfEntries entries]
      constructor
      · rintro ⟨entry, member, inside⟩
        exact .record member inside
      · intro inside
        cases inside with
        | record member deeper => exact ⟨_, member, deeper⟩
  | .list items =>
      rw [integers, mem_integersOfItems items]
      constructor
      · rintro ⟨item, member, inside⟩
        exact .list member inside
      · intro inside
        cases inside with
        | list member deeper => exact ⟨_, member, deeper⟩

theorem mem_integersOfEntries (entries : List (String × Capture)) :
    slice ∈ integersOfEntries entries ↔ ∃ entry ∈ entries, entry.2.HasInteger slice := by
  match entries with
  | [] => simp [integersOfEntries]
  | (name, value) :: rest =>
      rw [integersOfEntries, List.mem_append, mem_integers value, mem_integersOfEntries rest]
      simp

theorem mem_integersOfItems (items : List Capture) :
    slice ∈ integersOfItems items ↔ ∃ item ∈ items, item.HasInteger slice := by
  match items with
  | [] => simp [integersOfItems]
  | item :: rest =>
      rw [integersOfItems, List.mem_append, mem_integers item, mem_integersOfItems rest]
      simp

end

theorem HasInteger.atom {capture : Capture} (has : capture.HasInteger slice) :
    Inside (.atom slice) capture :=
  Inside.trans (.tagged .here) has

def InSourceOrder (integers : List Slice) : Prop :=
  integers.Pairwise fun one two => one.span.stop ≤ two.span.start

theorem Ahead.of_mem {front back : Capture} (ahead : Ahead front back) {one two : Slice}
    (inFront : one ∈ front.integers) (inBack : two ∈ back.integers) :
    one.span.stop ≤ two.span.start :=
  ahead one two ((mem_integers front).mp inFront).atom ((mem_integers back).mp inBack).atom

theorem inSourceOrder_items {items : List Capture} (ahead : items.Pairwise Ahead)
    (each : ∀ item ∈ items, InSourceOrder item.integers) :
    InSourceOrder (integersOfItems items) := by
  induction items with
  | nil => exact .nil
  | cons item rest ih =>
      obtain ⟨aheadHere, aheadRest⟩ := List.pairwise_cons.mp ahead
      obtain ⟨here, behind⟩ := List.forall_mem_cons.mp each
      rw [InSourceOrder, integersOfItems, List.pairwise_append]
      refine ⟨here, ih aheadRest behind, ?_⟩
      intro one inFront two inBack
      obtain ⟨other, member, has⟩ := (mem_integersOfItems rest).mp inBack
      exact (aheadHere other member).of_mem inFront ((mem_integers other).mpr has)

end Capture

def Slice.Oversized (slice : Slice) : Prop :=
  Int64.maxValue.toInt < Integer.decimal slice.text.toList

instance (slice : Slice) : Decidable slice.Oversized :=
  inferInstanceAs (Decidable (Int64.maxValue.toInt < Integer.decimal slice.text.toList))

def oversized? (slices : List Slice) : Option Slice :=
  slices.find? fun slice => decide slice.Oversized

theorem oversized?_append (front back : List Slice) :
    oversized? (front ++ back) = (oversized? front).or (oversized? back) :=
  List.find?_append

theorem isSome_oversized? {capture : Capture} :
    (oversized? capture.integers).isSome = true ↔
      ∃ slice, capture.HasInteger slice ∧ slice.Oversized := by
  simp [oversized?, Capture.mem_integers]

theorem number?_of_not_oversized {slice : Slice} {digits : List Char}
    (sameText : slice.text = .ofList digits) (fits : ¬slice.Oversized) :
    ∃ number, Integer.number? digits = some number := by
  rw [Slice.Oversized, sameText, String.toList_ofList] at fits
  rw [Integer.number?, if_pos (Int.not_lt.mp fits)]
  exact ⟨_, rfl⟩

def RefusedAtFirst (source : Source) (capture : Capture) {β : Type}
    (answer : Except Diagnostic β) : Prop :=
  ∃ slice diagnostic shown reason, capture.HasInteger slice ∧ slice.Oversized ∧
    slice.CutFrom source.text ∧
    (∀ other, capture.HasInteger other → other.Oversized →
      other = slice ∨ slice.span.stop ≤ other.span.start) ∧
    answer = .error diagnostic ∧ diagnostic.cause = .malformedBinding "int" shown reason ∧
    diagnostic.place = some ⟨source, slice.span⟩

open Language.Expression (cause?)
open Ruleset (Blames)

theorem refusedAtFirst_of_blames {source : Source} {capture : Capture} {β : Type}
    {answer : Except Diagnostic β}
    (blames : Blames source "int" (oversized? capture.integers) answer)
    (shallow : ∀ depth, cause? answer ≠ some (.treeDepthLimit depth))
    (ordered : Capture.InSourceOrder capture.integers) (faithful : capture.Faithful source.text)
    (exceeds : ∃ slice, capture.HasInteger slice ∧ slice.Oversized) :
    RefusedAtFirst source capture answer := by
  obtain ⟨witnessed, has, large⟩ := exceeds
  cases known : oversized? capture.integers with
  | none =>
      have fits := List.find?_eq_none.mp known witnessed ((Capture.mem_integers capture).mpr has)
      simp [large] at fits
  | some slice =>
      rw [known] at blames
      obtain ⟨largeHere, front, back, shown, before⟩ := List.find?_eq_some_iff_append.mp known
      have hasHere : capture.HasInteger slice := by
        rw [← Capture.mem_integers, shown]
        simp
      cases blames with
      | refused cause place =>
          refine ⟨slice, _, _, _, hasHere, of_decide_eq_true largeHere,
            faithful _ hasHere.atom, ?_, rfl, cause, place⟩
          intro other hasOther largeOther
          rw [← Capture.mem_integers, shown, List.mem_append, List.mem_cons] at hasOther
          rw [shown, Capture.InSourceOrder, List.pairwise_append, List.pairwise_cons] at ordered
          obtain inFront | same | inBack := hasOther
          · simpa [largeOther] using before other inFront
          · exact .inl same
          · exact .inr (ordered.2.1.1 other inBack)
      | tooDeep cause => exact (shallow _ (congrArg some cause)).elim

theorem shallow_of_bind {β γ : Type} {answer : Except Diagnostic β}
    {next : β → Except Diagnostic γ}
    (shallow : ∀ depth, cause? (answer.bind next) ≠ some (.treeDepthLimit depth)) (depth : Nat) :
    cause? answer ≠ some (.treeDepthLimit depth) := by
  cases answer with
  | ok => rintro ⟨⟩
  | error => exact shallow depth

theorem RefusedAtFirst.bind {source : Source} {capture : Capture} {β γ : Type}
    {answer : Except Diagnostic β} (refused : RefusedAtFirst source capture answer)
    (next : β → Except Diagnostic γ) : RefusedAtFirst source capture (answer.bind next) := by
  obtain ⟨slice, diagnostic, shown, reason, has, large, cut, first, rfl, blamed⟩ := refused
  exact ⟨slice, diagnostic, shown, reason, has, large, cut, first, rfl, blamed⟩

theorem RefusedAtFirst.map {source : Source} {capture : Capture} {β γ : Type}
    {answer : Except Diagnostic β} (refused : RefusedAtFirst source capture answer)
    (change : β → γ) : RefusedAtFirst source capture (answer.map change) := by
  obtain ⟨slice, diagnostic, shown, reason, has, large, cut, first, rfl, blamed⟩ := refused
  exact ⟨slice, diagnostic, shown, reason, has, large, cut, first, rfl, blamed⟩

namespace Language.Expression

open Ruleset (Ends)

section

variable {source : Source} {α : Type} [BEq α] {setting : Ruleset.Setting α}

/-- A rule that reads an integer is refused at the integer, if that is too large. -/
theorem blames_of_readInteger {rule : TreeRule α} {rest : List (TreeRule α)} {tree : Tree α}
    {bindings : Bindings α} {make : Int64 → Tree α} {digits : List Char} {slice : Slice}
    (called : rule.name = "int") (matched : rule.shape.match? tree = some bindings)
    (built : (rule.build.run bindings).1 = (readInteger slice.text).map make)
    (numeral : Numeral digits) (sameText : slice.text = .ofList digits)
    (known : setting.source = some source) (span : tree.span? = some slice.span) :
    Blames source "int" (oversized? [slice])
      (Ruleset.reduceNode setting (rule :: rest) tree) := by
  rw [Ruleset.reduceNode, matched]
  simp only [built, sameText, readInteger_eq numeral]
  by_cases large : slice.Oversized
  · have beyond : Integer.number? digits = none := by
      rw [Slice.Oversized, sameText, String.toList_ofList] at large
      rw [Integer.number?, if_neg (Int.not_le.mpr large)]
    have first : oversized? [slice] = some slice := by simp [oversized?, large]
    rw [first, beyond]
    simp only [Except.map, Ruleset.malformed, called, known, span]
    exact .refused rfl rfl
  · obtain ⟨number, fits⟩ := number?_of_not_oversized sameText large
    have nothing : oversized? [slice] = none := by simp [oversized?, large]
    rw [nothing, fits]
    exact .done

end

theorem integers_sum (left sign : Slice) (right : Capture) :
    (Capture.record [("left", .tagged "int" (.atom left)), ("op", .atom sign),
      ("right", right)]).integers = [left] ++ right.integers := by
  simp [Capture.integers, Capture.integersOfEntries, Capture.integer?]

theorem integers_call (captures : List Capture) (name : Slice) :
    (Capture.record [("arglist", .list captures), ("funcall", .atom name)]).integers =
      Capture.integersOfItems captures := by
  simp [Capture.integers, Capture.integersOfEntries]

mutual

theorem Pictures.exists_expr {phrase : Phrase} {capture : Capture}
    (pictures : Pictures phrase capture) (fits : oversized? capture.integers = none) :
    ∃ expr, phrase.expr? = some expr := by
  cases pictures with
  | @int digits slice _ sameText =>
      have small : ¬slice.Oversized := by
        simpa [Capture.integers, Capture.integer?, oversized?] using fits
      obtain ⟨number, known⟩ := number?_of_not_oversized sameText small
      exact ⟨.int number, by rw [Phrase.expr?, known, Option.map_some]⟩
  | str => exact ⟨_, rfl⟩
  | @sum digits left sign phrase capture _ sameText _ right =>
      rw [integers_sum, oversized?_append, Option.or_eq_none_iff] at fits
      have small : ¬left.Oversized := by
        simpa [oversized?] using fits.1
      obtain ⟨number, known⟩ := number?_of_not_oversized sameText small
      obtain ⟨expr, meant⟩ := right.exists_expr fits.2
      exact ⟨.add (.int number) expr, by simp [Phrase.expr?, known, meant]⟩
  | call _ arguments =>
      rw [integers_call] at fits
      obtain ⟨exprs, meant⟩ := arguments.exists_exprs fits
      exact ⟨_, by rw [Phrase.expr?, meant, Option.map_some]⟩

theorem PicturesAll.exists_exprs {phrases : List Phrase} {captures : List Capture}
    (pictures : PicturesAll phrases captures)
    (fits : oversized? (Capture.integersOfItems captures) = none) :
    ∃ exprs, Phrase.exprs? phrases = some exprs := by
  cases pictures with
  | nil => exact ⟨[], rfl⟩
  | cons first rest =>
      rw [Capture.integersOfItems, oversized?_append, Option.or_eq_none_iff] at fits
      obtain ⟨expr, meant⟩ := first.exists_expr fits.1
      obtain ⟨exprs, meantBehind⟩ := rest.exists_exprs fits.2
      exact ⟨expr :: exprs, by simp [Phrase.exprs?, meant, meantBehind]⟩

end

section

variable {source : Source} {limit : Nat}

theorem blames_int {setting : Ruleset.Setting Expr} (known : setting.source = some source)
    {depth : Nat} {digits : List Char} {slice : Slice} (numeral : Numeral digits)
    (sameText : slice.text = .ofList digits) :
    Blames source "int" (oversized? [slice])
      ((bounded limit).reduce setting depth (.record [("int", .atom slice)])) := by
  have matched : intRule.shape.match? (.record [("int", (.atom slice : Tree Expr))]) =
      some [("int", .atom slice)] := rfl
  have first : ruleset.rules = intRule :: ruleset.rules.tail := rfl
  apply Blames.leaf rfl
  rw [rules_bounded, first]
  exact blames_of_readInteger rfl matched (build_int slice) numeral sameText known rfl

mutual

theorem Pictures.blames {phrase : Phrase} {capture : Capture} (pictures : Pictures phrase capture)
    {setting : Ruleset.Setting Expr} (known : setting.source = some source) (depth : Nat) :
    Blames source "int" (oversized? capture.integers)
      ((bounded limit).reduce setting depth (.ofCapture capture)) := by
  have whole (fits : oversized? capture.integers = none) :
      Blames source "int" none ((bounded limit).reduce setting depth (.ofCapture capture)) := by
    obtain ⟨expr, meant⟩ := pictures.exists_expr fits
    have ends := pictures.ends setting limit depth
    rw [meant] at ends
    exact .of_ends ends
  cases pictures with
  | int numeral sameText => exact blames_int known numeral sameText
  | str => exact whole rfl
  | @sum digits left sign right capture numeral sameText _ pictured =>
      have leftBlames := @blames_int source limit setting known (depth + 1) digits left numeral
        sameText
      have signBlames : Blames source "int" none
          ((bounded limit).reduce setting (depth + 1) (.atom sign)) := .atom rfl
      have rightBlames := pictured.blames known (depth + 1)
      have entries := leftBlames.entries_cons "left" (signBlames.entries_cons "op"
        (rightBlames.entries_cons "right" .entries_nil))
      rw [Option.none_or, Option.or_none, ← oversized?_append, ← integers_sum left sign] at entries
      exact .record entries whole
  | @call name slice arguments captures _ pictured =>
      have argumentsBlame := (pictured.blames known (depth + 2)).list fun _ => rfl
      have nameBlames : Blames source "int" none
          ((bounded limit).reduce setting (depth + 1) (.atom slice)) := .atom rfl
      have entries := argumentsBlame.entries_cons "arglist"
        (nameBlames.entries_cons "funcall" .entries_nil)
      rw [Option.none_or, Option.or_none, ← integers_call captures slice] at entries
      exact .record entries whole

theorem PicturesAll.blames {phrases : List Phrase} {captures : List Capture}
    (pictures : PicturesAll phrases captures) {setting : Ruleset.Setting Expr}
    (known : setting.source = some source) (depth : Nat) :
    Blames source "int" (oversized? (Capture.integersOfItems captures))
      ((bounded limit).reduceItems setting depth (Tree.ofItems captures)) := by
  cases pictures with
  | nil => exact .items_nil
  | cons first rest =>
      rw [Capture.integersOfItems, oversized?_append]
      exact (first.blames known depth).items_cons (rest.blames known depth)

end

end

/-! The integers of an expression are captured in the order of the source. -/

theorem puts_left : rules.Puts facts "left" "right" :=
  RuleTable.puts_of_all (by decide +kernel)

section

variable {text : String}

mutual

theorem Pictures.inSourceOrder {phrase : Phrase} {capture : Capture}
    (pictures : Pictures phrase capture) (faithful : capture.Faithful text)
    (turn : capture.InTurn "left" "right") : Capture.InSourceOrder capture.integers := by
  cases pictures with
  | int | str =>
      simp [Capture.InSourceOrder, Capture.integers, Capture.integer?]
  | @sum digits left sign right capture _ _ _ pictured =>
      rw [integers_sum, Capture.InSourceOrder, List.pairwise_append]
      have within : Capture.Inside capture (.record [("left", .tagged "int" (.atom left)),
          ("op", .atom sign), ("right", capture)]) :=
        .record (List.mem_cons_of_mem _ (List.mem_cons_of_mem _ List.mem_cons_self)) .here
      have ahead := turn _ .here (.tagged "int" (.atom left)) capture (by simp) (by simp)
      refine ⟨List.pairwise_singleton _ _,
        pictured.inSourceOrder (faithful.inside within) (turn.inside within), ?_⟩
      intro one inLeft two inRight
      apply ahead.of_mem _ inRight
      simpa [Capture.integers, Capture.integer?] using inLeft
  | @call name slice arguments captures _ pictured =>
      rw [integers_call]
      have within : Capture.Inside (.list captures)
          (.record [("arglist", .list captures), ("funcall", .atom slice)]) :=
        .record List.mem_cons_self .here
      have inside (capture : Capture) (member : capture ∈ captures) :=
        Capture.Inside.trans (.list member .here) within
      apply Capture.inSourceOrder_items (faithful _ within).2
      exact pictured.inSourceOrder (fun capture member => faithful.inside (inside capture member))
        fun capture member => turn.inside (inside capture member)

theorem PicturesAll.inSourceOrder {phrases : List Phrase} {captures : List Capture}
    (pictures : PicturesAll phrases captures)
    (faithful : ∀ capture ∈ captures, capture.Faithful text)
    (turn : ∀ capture ∈ captures, capture.InTurn "left" "right") :
    ∀ capture ∈ captures, Capture.InSourceOrder capture.integers := by
  cases pictures with
  | nil => exact List.forall_mem_nil _
  | cons first rest =>
      obtain ⟨faithfulFirst, faithfulRest⟩ := List.forall_mem_cons.mp faithful
      obtain ⟨turnFirst, turnRest⟩ := List.forall_mem_cons.mp turn
      exact List.forall_mem_cons.mpr
        ⟨first.inSourceOrder faithfulFirst turnFirst, rest.inSourceOrder faithfulRest turnRest⟩

end

end

theorem refusedAtFirst {source : Source} {limit : Nat} {capture : Capture}
    (parsed : grammar.parseNested none source limit = .ok capture)
    (shallow : ∀ depth, cause? (parseNested source limit) ≠ some (.treeDepthLimit depth))
    (exceeds : ∃ slice, capture.HasInteger slice ∧ slice.Oversized) :
    RefusedAtFirst source capture (parseNested source limit) := by
  have read : reading source limit Ruleset.defaultMaxDepth =
      (bounded Ruleset.defaultMaxDepth).applyCapture (setting (some source)) capture := by
    rw [reading, parsed]
    rfl
  rw [grammar_eq] at parsed
  have turn : capture.InTurn "left" "right" :=
    @Grammar.inTurn_of_parseNested _ _ checked facts accepted puts_left (by decide) none source
      limit capture parsed
  obtain ⟨id, output, stop, known, -, found, -, rfl⟩ :=
    (@Grammar.parseNested_eq_ok checked none facts accepted source limit capture).mp parsed
  cases known
  have faithful := found.faithful
  obtain ⟨phrase, text, entries, -, -, -, rfl, pictures⟩ := expression_spelled found
  have blames : Blames source "int" _ ((bounded Ruleset.defaultMaxDepth).applyCapture
      (setting (some source)) (Output.fields entries).toCapture) := pictures.blames rfl 0
  rw [parseNested_eq, read] at shallow ⊢
  have refused := refusedAtFirst_of_blames blames (shallow_of_bind shallow)
    (pictures.inSourceOrder faithful turn) faithful exceeds
  exact refused.bind _

end Language.Expression

end PegText
