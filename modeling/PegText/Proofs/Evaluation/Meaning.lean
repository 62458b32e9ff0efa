import PegText.Evaluation

/-!
What an expression means where nothing limits its depth: the texts that it emits, and its value or
the first error. An evaluation gives just that as long as the limit allows for the height of the
expression. Otherwise it may be cut off, and then it has emitted the beginning of those texts.
-/

namespace PegText.Evaluation

structure Meaning (α : Type) where
  texts : List String
  result : Except Diagnostic α

namespace Meaning

variable {α β : Type}

def silent (result : Except Diagnostic α) : Meaning α := ⟨[], result⟩

def andThen (first : Meaning α) (next : α → Meaning β) : Meaning β :=
  match first.result with
  | .error diagnostic => ⟨first.texts, .error diagnostic⟩
  | .ok value => ⟨first.texts ++ (next value).texts, (next value).result⟩

theorem texts_andThen (first : Meaning α) (next : α → Meaning β) :
    first.texts <+: (first.andThen next).texts := by
  rw [andThen]
  cases first.result with
  | error => exact List.prefix_refl _
  | ok => exact List.prefix_append _ _

end Meaning

section

variable (registry : Registry) (source : Option Source)

def refusal (cause : Cause) : Diagnostic := Setting.report ⟨registry, source, 0⟩ cause none

def sum (left right : Value) : Except Diagnostic Value :=
  match left, right with
  | .int first, .int second =>
      let total := first.toInt + second.toInt
      if Int64.minValue.toInt ≤ total ∧ total ≤ Int64.maxValue.toInt then .ok (.int (.ofInt total))
      else .error (refusal registry source
        (.overflow (toString first.toInt ++ " + " ++ toString second.toInt)))
  | .int _, other => .error (refusal registry source (.typeMismatch "integer" other.kind))
  | other, _ => .error (refusal registry source (.typeMismatch "integer" other.kind))

mutual

def meaning : Expr → Meaning Value
  | .int number => .silent (.ok (.int number))
  | .str text => .silent (.ok (.str text))
  | .add left right =>
      (meaning left).andThen fun left =>
        (meaning right).andThen fun right => .silent (sum registry source left right)
  | .call name arguments =>
      match registry.find? name with
      | none => .silent (.error (refusal registry source (.unknownFunction name)))
      | some builtin =>
          (meaningAll arguments).andThen fun values => ⟨(builtin values).1, (builtin values).2⟩

def meaningAll : List Expr → Meaning (List Value)
  | [] => .silent (.ok [])
  | expr :: rest =>
      (meaning expr).andThen fun value =>
        (meaningAll rest).andThen fun values => .silent (.ok (value :: values))

end

end

def State.emit (state : State) (texts : List String) : State :=
  { state with emitted := state.emitted ++ texts }

/-- An evaluation that starts at `state` and goes down to `bottom`: it gives what is meant, or it is
cut off because the limit lies above `bottom`. Either way it comes back to where it started. -/
inductive Setting.Refines {α : Type} (setting : Setting) (bottom : Nat) (state : State)
    (meant : Meaning α) : Result α → Prop
  | same : Refines setting bottom state meant (meant.result, state.emit meant.texts)
  | cut {texts} : setting.maxDepth < bottom → texts <+: meant.texts →
      Refines setting bottom state meant
        (.error (refusal setting.registry setting.source (.recursionLimit setting.maxDepth)),
          state.emit texts)

namespace Setting.Refines

variable {α β : Type} {setting : Setting} {bottom lower : Nat} {state : State}

theorem mono {meant : Meaning α} {result : Result α}
    (refines : setting.Refines bottom state meant result) (below : bottom ≤ lower) :
    setting.Refines lower state meant result := by
  cases refines with
  | same => exact .same
  | cut low begins => exact .cut (Nat.lt_of_lt_of_le low below) begins

theorem silent (result : Except Diagnostic α) :
    setting.Refines bottom state (.silent result) (result, state) := by
  have unchanged : state.emit [] = state := by simp [State.emit]
  have refines : setting.Refines bottom state (.silent result) (result, state.emit []) := .same
  rwa [unchanged] at refines

/-- An evaluation that ends where another one ends with an error, and goes on from its end
otherwise. -/
theorem andThen {one : Meaning α} {two : α → Meaning β} {first : Result α} {answer : Result β}
    (here : setting.Refines bottom state one first)
    (refused : ∀ diagnostic between, first = (.error diagnostic, between) →
      answer = (.error diagnostic, between))
    (goesOn : ∀ value between, first = (.ok value, between) → between.depth = state.depth →
      setting.Refines bottom between (two value) answer) :
    setting.Refines bottom state (one.andThen two) answer := by
  cases here with
  | cut low begins =>
      rw [refused _ _ rfl]
      exact .cut low (begins.trans (Meaning.texts_andThen one two))
  | same =>
      obtain ⟨texts, _ | value⟩ := one
      · rw [refused _ _ rfl]
        exact .same
      · have later := goesOn value _ rfl rfl
        have joined (more : List String) :
            (state.emit texts).emit more = state.emit (texts ++ more) := by
          simp [State.emit]
        cases later with
        | same =>
            rw [joined]
            exact .same
        | cut low begins =>
            rw [joined]
            exact .cut low ((List.prefix_append_right_inj texts).mpr begins)

theorem deeper {meant : Meaning α} {step : State → Result α} (beyond : state.depth < bottom)
    (inside : setting.Refines bottom { state with depth := state.depth + 1 } meant
      (step { state with depth := state.depth + 1 })) :
    setting.Refines bottom state meant (setting.deeper step state) := by
  rw [Setting.deeper]
  split
  next full =>
    have unchanged : state.emit [] = state := by simp [State.emit]
    have cut : setting.Refines bottom state meant (_, state.emit []) :=
      .cut (Nat.lt_of_le_of_lt full beyond) List.nil_prefix
    rwa [unchanged] at cut
  next =>
    generalize step { state with depth := state.depth + 1 } = result at inside
    cases inside with
    | same => exact .same
    | cut low begins => exact .cut low begins

theorem add (left right : Value) :
    setting.Refines bottom state (.silent (sum setting.registry setting.source left right))
      (setting.add left right state) := by
  have same : setting.add left right state =
      (sum setting.registry setting.source left right, state) := by
    cases left with
    | nil | str | list => rfl
    | int first =>
        cases right with
        | nil | str | list => rfl
        | int second =>
            simp only [Setting.add, sum, checkedSum?]
            by_cases fits : Int64.minValue.toInt ≤ first.toInt + second.toInt ∧
                first.toInt + second.toInt ≤ Int64.maxValue.toInt
            · simp only [if_pos fits]
            · simp only [if_neg fits]
              rfl
  rw [same]
  exact silent _

theorem call (builtin : Builtin) (values : List Value) :
    setting.Refines bottom state ⟨(builtin values).1, (builtin values).2⟩
      (call builtin values state) :=
  .same

end Setting.Refines

variable {setting : Setting}

mutual

theorem refines_evaluate (expr : Expr) (state : State) :
    setting.Refines (state.depth + expr.height) state
      (meaning setting.registry setting.source expr) (evaluate setting expr state) := by
  match expr with
  | .int _ | .str _ =>
      rw [evaluate]
      exact .deeper (Nat.lt_succ_self _) (.silent _)
  | .add left right =>
      rw [evaluate, Expr.height, meaning]
      refine .deeper (by omega) ?_
      have first := refines_evaluate left { state with depth := state.depth + 1 }
      refine .andThen (first.mono (by simp only; omega)) (fun _ _ ended => by simp only [ended]) ?_
      intro leftValue between ended level
      simp only at level
      simp only [ended]
      have second := refines_evaluate right between
      refine .andThen (second.mono (by omega)) (fun _ _ ended => by simp only [ended]) ?_
      intro rightValue after ended _
      simp only [ended]
      exact .add leftValue rightValue
  | .call name arguments =>
      rw [evaluate, Expr.height, meaning]
      refine .deeper (by omega) ?_
      cases setting.registry.find? name with
      | none => exact .silent _
      | some builtin =>
          have inside := refines_evaluateAll arguments { state with depth := state.depth + 1 }
          refine .andThen (inside.mono (by simp only; omega)) (fun _ _ ended => by simp only [ended]) ?_
          intro values after ended _
          simp only [ended]
          exact .call builtin values

theorem refines_evaluateAll (exprs : List Expr) (state : State) :
    setting.Refines (state.depth + Expr.heightOfAll exprs) state
      (meaningAll setting.registry setting.source exprs) (evaluateAll setting exprs state) := by
  match exprs with
  | [] =>
      rw [evaluateAll]
      exact .silent _
  | expr :: rest =>
      rw [evaluateAll, Expr.heightOfAll, meaningAll]
      have first := refines_evaluate expr state
      refine .andThen (first.mono (by omega)) (fun _ _ ended => by simp only [ended]) ?_
      intro value between ended level
      simp only [ended]
      have later := refines_evaluateAll rest between
      refine .andThen (later.mono (by omega)) (fun _ _ ended => by simp only [ended]) ?_
      intro values after ended _
      simp only [ended]
      exact .silent _

end

/-- An evaluation gives what the expression means if the limit allows for its height. Otherwise it
may end at the limit instead, with the beginning of the texts emitted. The depth is always given
back. -/
theorem evaluate_refines_meaning (registry : Registry) (source : Option Source) (limit : Nat)
    (expr : Expr) (state : State) :
    let meant := meaning registry source expr
    let ended := evaluate ⟨registry, source, limit⟩ expr state
    ended.2.depth = state.depth ∧
      (state.depth + expr.height ≤ limit → ended = (meant.result, state.emit meant.texts)) ∧
        (ended = (meant.result, state.emit meant.texts) ∨
          ∃ texts, texts <+: meant.texts ∧
            ended = (.error (refusal registry source (.recursionLimit limit)),
              state.emit texts)) := by
  intro meant ended
  have refines : Setting.Refines ⟨registry, source, limit⟩ (state.depth + expr.height) state meant
      ended := refines_evaluate expr state
  generalize ended = result at refines
  cases refines with
  | same => exact ⟨rfl, fun _ => rfl, .inl rfl⟩
  | cut low begins =>
      exact ⟨rfl, fun room => absurd low (Nat.not_lt.mpr room), .inr ⟨_, begins, rfl⟩⟩

/-- With one level too few, the second argument is cut off behind what the first one emits. -/
theorem evaluate_refines_meaning_puts :
    let registry : Registry := [("nil", .silent fun _ => .nil), ("puts", .puts)]
    let expr : Expr :=
      .call "nil" [.call "puts" [.str "a"], .call "nil" [.call "puts" [.str "b"]]]
    2 + expr.height ≤ 6 ∧
      evaluate ⟨registry, none, 6⟩ expr ⟨2, ["start"]⟩ = (.ok .nil, ⟨2, ["start", "a", "b"]⟩) ∧
        evaluate ⟨registry, none, 5⟩ expr ⟨2, ["start"]⟩ =
          (.error (refusal registry none (.recursionLimit 5)), ⟨2, ["start", "a"]⟩) := by
  intro registry expr
  have room : 2 + expr.height ≤ 6 := by decide
  refine ⟨room, ?_, rfl⟩
  exact (evaluate_refines_meaning registry none 6 expr ⟨2, ["start"]⟩).2.1 room

end PegText.Evaluation
