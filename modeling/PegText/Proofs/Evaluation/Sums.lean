import PegText.Proofs.Evaluation.Meaning

/-!
Sums of natural numbers. An addition is checked at every node of the expression, but no addend is
negative, so a part of a sum overflows only if the whole sum does. How the addends are grouped and
ordered makes no difference to the value.
-/

namespace PegText

/-- A sum of natural numbers, grouped in any way, with its addends from left to right. -/
inductive Expr.Adds : Expr → List Int64 → Prop
  | int {number : Int64} : 0 ≤ number.toInt → Adds (.int number) [number]
  | add {left right first second} : Adds left first → Adds right second →
      Adds (.add left right) (first ++ second)

namespace Evaluation

def total : List Int64 → Int
  | [] => 0
  | addend :: rest => addend.toInt + total rest

theorem total_append (first second : List Int64) :
    total (first ++ second) = total first + total second := by
  induction first with
  | nil => simp [total]
  | cons addend rest ih =>
      simp only [List.cons_append, total, ih]
      omega

theorem total_perm {first second : List Int64} (perm : first.Perm second) :
    total first = total second := by
  induction perm with
  | nil => simp
  | cons addend _ ih => simp [total, ih]
  | swap one two rest =>
      simp only [total]
      omega
  | trans _ _ front back => rw [front, back]

theorem total_nonneg {expr : Expr} {addends : List Int64} (adds : expr.Adds addends) :
    0 ≤ total addends := by
  induction adds with
  | int natural => simpa [total] using natural
  | add _ _ left right =>
      rw [total_append]
      omega

inductive Tallies (registry : Registry) (source : Option Source) (total : Int) :
    Meaning Value → Prop
  | fits {number : Int64} : number.toInt = total →
      Tallies registry source total (.silent (.ok (.int number)))
  | overflows {operation : String} : Int64.maxValue.toInt < total →
      Tallies registry source total (.silent (.error (refusal registry source (.overflow operation))))

section

variable {registry : Registry} {source : Option Source} {first second : Int}
  {left right : Meaning Value}

/-- One addition: it stays in range exactly if both parts and their sum do. -/
theorem Tallies.add (tallyLeft : Tallies registry source first left)
    (tallyRight : Tallies registry source second right) (lower : 0 ≤ first) (lower' : 0 ≤ second) :
    Tallies registry source (first + second)
      (left.andThen fun left => right.andThen fun right =>
        .silent (sum registry source left right)) := by
  cases tallyLeft with
  | overflows beyond => exact .overflows (by omega)
  | @fits one same =>
      cases tallyRight with
      | overflows beyond => exact .overflows (by omega)
      | @fits two same' =>
          have least : Int64.minValue.toInt = -2 ^ 63 := by decide
          have most : Int64.maxValue.toInt = 2 ^ 63 - 1 := by decide
          have here : (Meaning.silent (.ok (.int one))).andThen (fun left =>
              (Meaning.silent (.ok (.int two))).andThen fun right =>
                .silent (sum registry source left right)) =
              .silent (sum registry source (.int one) (.int two)) := rfl
          rw [here]
          simp only [sum, same, same']
          by_cases within : first + second ≤ Int64.maxValue.toInt
          · rw [if_pos ⟨by omega, within⟩]
            apply Tallies.fits
            exact Int64.toInt_ofInt_of_le (by omega) (by omega)
          · rw [if_neg (by omega)]
            exact .overflows (by omega)

theorem tallies_meaning {expr : Expr} {addends : List Int64} (adds : expr.Adds addends) :
    Tallies registry source (total addends) (meaning registry source expr) := by
  induction adds with
  | int natural =>
      rw [meaning]
      exact .fits (by simp [total])
  | add addsLeft addsRight left right =>
      rw [meaning, total_append]
      exact left.add right (total_nonneg addsLeft) (total_nonneg addsRight)

end

theorem evaluate_sum_cases {expr : Expr} {addends : List Int64} (adds : expr.Adds addends)
    (setting : Setting) (state : State) (room : state.depth + expr.height ≤ setting.maxDepth) :
    (total addends ≤ Int64.maxValue.toInt ∧ ∃ number : Int64, number.toInt = total addends ∧
      evaluate setting expr state = (.ok (.int number), state)) ∨
    (Int64.maxValue.toInt < total addends ∧
      ∃ operation, evaluate setting expr state = setting.fail (.overflow operation) state) := by
  have unchanged : state.emit [] = state := by simp [State.emit]
  have tallies : Tallies setting.registry setting.source (total addends) _ := tallies_meaning adds
  have refines := @refines_evaluate setting expr state
  generalize evaluate setting expr state = result at refines
  cases refines with
  | cut low => omega
  | same =>
      generalize meaning setting.registry setting.source expr = meant at tallies
      cases tallies with
      | @fits number same =>
          left
          have bounded : number.toInt ≤ Int64.maxValue.toInt := number.toInt_le
          exact ⟨by omega, number, same, by simp only [Meaning.silent, unchanged]⟩
      | @overflows operation beyond =>
          right
          refine ⟨beyond, operation, ?_⟩
          simp only [Meaning.silent, unchanged]
          rfl

/-- A sum of natural numbers has their exact total as its value if 64 bits hold it, and overflows
otherwise. It only depends on which addends there are. -/
theorem evaluate_sum_exact {expr : Expr} {addends : List Int64} (adds : expr.Adds addends)
    (setting : Setting) (state : State) (room : state.depth + expr.height ≤ setting.maxDepth) :
    (total addends ≤ Int64.maxValue.toInt → ∃ number : Int64, number.toInt = total addends ∧
      evaluate setting expr state = (.ok (.int number), state)) ∧
    (Int64.maxValue.toInt < total addends → ∃ operation,
      evaluate setting expr state = setting.fail (.overflow operation) state) ∧
    ∀ other more, other.Adds more → more.Perm addends →
      state.depth + other.height ≤ setting.maxDepth →
      (∃ value, evaluate setting expr state = (.ok value, state) ∧
        evaluate setting other state = (.ok value, state)) ∨
      (∃ operation another, evaluate setting expr state = setting.fail (.overflow operation) state ∧
        evaluate setting other state = setting.fail (.overflow another) state) := by
  have here := evaluate_sum_cases adds setting state room
  refine ⟨?_, ?_, ?_⟩
  · intro within
    obtain ⟨-, fits⟩ | ⟨beyond, -⟩ := here
    · exact fits
    · omega
  · intro beyond
    obtain ⟨within, -⟩ | ⟨-, overflows⟩ := here
    · omega
    · exact overflows
  · intro other more addsToo perm roomToo
    have there := evaluate_sum_cases addsToo setting state roomToo
    rw [total_perm perm] at there
    obtain ⟨within, number, same, value⟩ | ⟨beyond, operation, overflows⟩ := here
    · obtain ⟨-, another, same', value'⟩ | ⟨beyond, -⟩ := there
      · left
        have equal : another = number := Int64.toInt_inj.mp (same'.trans same.symm)
        exact ⟨.int number, value, equal ▸ value'⟩
      · omega
    · obtain ⟨within, -⟩ | ⟨-, operation', overflows'⟩ := there
      · omega
      · right
        exact ⟨operation, operation', overflows, overflows'⟩

/-- The total is one too large, wherever it is that the sum gets there. -/
theorem evaluate_sum_exact_one_too_large :
    let setting : Setting := ⟨.standard, none, 3⟩
    let early : Expr := .add (.add (.int .maxValue) (.int 0)) (.int 1)
    let late : Expr := .add (.int 1) (.add (.int 0) (.int .maxValue))
    early.Adds [.maxValue, 0, 1] ∧ late.Adds [1, 0, .maxValue] ∧
    (∃ operation, evaluate setting early .initial = setting.fail (.overflow operation) .initial) ∧
    ((∃ value, evaluate setting early .initial = (.ok value, .initial) ∧
        evaluate setting late .initial = (.ok value, .initial)) ∨
      ∃ operation another,
        evaluate setting early .initial = setting.fail (.overflow operation) .initial ∧
        evaluate setting late .initial = setting.fail (.overflow another) .initial) := by
  intro setting early late
  have zero : Expr.Adds (.int 0) [0] := .int (by decide)
  have one : Expr.Adds (.int 1) [1] := .int (by decide)
  have most : Expr.Adds (.int .maxValue) [.maxValue] := .int (by decide)
  have first : early.Adds [.maxValue, 0, 1] := .add (.add most zero) one
  have second : late.Adds [1, 0, .maxValue] := .add one (.add zero most)
  have exact := evaluate_sum_exact first setting .initial (by decide)
  exact ⟨first, second, exact.2.1 (by decide),
    exact.2.2 late [1, 0, .maxValue] second (by decide) (by decide)⟩

end Evaluation

end PegText
