import PegText.Evaluation

/-!
What an evaluation is refused for. Each level of an expression takes one level of depth and gives it
back, so the limit is met by an expression only that is higher than the limit allows.
-/

namespace PegText

def Registry.Total (registry : Registry) : Prop :=
  ∀ name builtin, registry.find? name = some builtin →
    ∀ arguments, ∃ value, (builtin arguments).2 = .ok value

theorem Registry.standard_total : standard.Total := by
  intro name builtin found arguments
  rw [find?, standard, Entries.lookup, List.lookup_cons] at found
  split at found
  · cases found
    exact ⟨_, rfl⟩
  · cases found

namespace Evaluation

theorem cause_report (setting : Setting) (cause : Cause) (span : Option Span) :
    (setting.report cause span).cause = cause := by
  obtain ⟨registry, source, maxDepth⟩ := setting
  cases cause <;> cases source <;> rfl

structure Setting.Walks {α : Type} (setting : Setting) (bottom : Nat) (state : State)
    (result : Result α) : Prop where
  depth : result.2.depth = state.depth
  phase : ∀ diagnostic, result.1 = .error diagnostic → diagnostic.cause.phase = .evaluation
  tooDeep : ∀ diagnostic limit, result.1 = .error diagnostic →
    diagnostic.cause = .recursionLimit limit → setting.maxDepth < bottom

namespace Setting.Walks

variable {α β : Type} {setting : Setting} {bottom lower : Nat} {state : State}

theorem mono {result : Result α} (walks : setting.Walks bottom state result)
    (below : bottom ≤ lower) : setting.Walks lower state result where
  depth := walks.depth
  phase := walks.phase
  tooDeep diagnostic limit refused cause :=
    Nat.lt_of_lt_of_le (walks.tooDeep diagnostic limit refused cause) below

theorem done {result : Except Diagnostic α} {after : State} (same : after.depth = state.depth)
    (fine : ∃ value, result = .ok value) : setting.Walks bottom state (result, after) := by
  obtain ⟨value, rfl⟩ := fine
  exact ⟨same, nofun, nofun⟩

theorem fail {cause : Cause} {after : State} (same : after.depth = state.depth)
    (phase : cause.phase = .evaluation)
    (tooDeep : ∀ limit, cause = .recursionLimit limit → setting.maxDepth < bottom) :
    setting.Walks bottom state (setting.fail cause after : Result α) where
  depth := same
  phase diagnostic refused := by
    cases refused
    rwa [cause_report]
  tooDeep diagnostic limit refused deep := by
    cases refused
    rw [cause_report] at deep
    exact tooDeep limit deep

/-- An evaluation that ends where another one is refused, and goes on from its end otherwise. -/
theorem after {first : Result α} {answer : Result β} (here : setting.Walks bottom state first)
    (refused : ∀ diagnostic between, first = (.error diagnostic, between) →
      answer = (.error diagnostic, between))
    (goesOn : ∀ value between, first = (.ok value, between) → between.depth = state.depth →
      setting.Walks bottom between answer) :
    setting.Walks bottom state answer := by
  match first with
  | (.error diagnostic, between) =>
      rw [refused diagnostic between rfl]
      refine ⟨here.depth, fun other same => here.phase other ?_,
        fun other limit same cause => here.tooDeep other limit ?_ cause⟩
      all_goals
        cases same
        rfl
  | (.ok value, between) =>
      have later := goesOn value between rfl here.depth
      exact ⟨later.depth.trans here.depth, later.phase, later.tooDeep⟩

theorem deeper {step : State → Result α} (beyond : state.depth < bottom)
    (inside : ∀ state', state'.depth = state.depth + 1 → setting.Walks bottom state' (step state')) :
    setting.Walks bottom state (setting.deeper step state) := by
  rw [Setting.deeper]
  split
  next full => exact fail rfl rfl fun _ _ => Nat.lt_of_le_of_lt full beyond
  next =>
    have walks := inside { state with depth := state.depth + 1 } rfl
    rcases ended : step { state with depth := state.depth + 1 } with ⟨result, after⟩
    rw [ended] at walks
    have down : after.depth = state.depth + 1 := walks.depth
    refine ⟨?_, walks.phase, walks.tooDeep⟩
    simp only [down, Nat.add_sub_cancel]

theorem add {left right : Value} {after : State} (same : after.depth = state.depth) :
    setting.Walks bottom state (setting.add left right after) := by
  rw [Setting.add.eq_def]
  split
  · split
    · exact done same ⟨_, rfl⟩
    · exact fail same rfl nofun
  · exact fail same rfl nofun
  · exact fail same rfl nofun

theorem call {builtin : Builtin} {arguments : List Value} {after : State}
    (same : after.depth = state.depth) (total : ∃ value, (builtin arguments).2 = .ok value) :
    setting.Walks bottom state (Evaluation.call builtin arguments after) := by
  rw [Evaluation.call]
  exact done same total

end Setting.Walks

variable {setting : Setting}

mutual

theorem walks_evaluate (total : setting.registry.Total) (expr : Expr) (state : State) :
    setting.Walks (state.depth + expr.height) state (evaluate setting expr state) := by
  match expr with
  | .int _ | .str _ =>
      rw [evaluate]
      exact .deeper (Nat.lt_succ_self _) fun _ _ => .done rfl ⟨_, rfl⟩
  | .add left right =>
      rw [evaluate, Expr.height]
      refine .deeper (by omega) fun start deeper => ?_
      have first := walks_evaluate total left start
      refine .after (first.mono (by omega)) (fun _ _ ended => by simp only [ended]) ?_
      intro leftValue between ended level
      simp only [ended]
      have second := walks_evaluate total right between
      refine .after (second.mono (by omega)) (fun _ _ ended => by simp only [ended]) ?_
      intro rightValue after ended _
      simp only [ended]
      exact .add rfl
  | .call name arguments =>
      rw [evaluate, Expr.height]
      refine .deeper (by omega) fun start deeper => ?_
      cases known : setting.registry.find? name with
      | none => exact .fail rfl rfl nofun
      | some builtin =>
          have inside := walks_evaluateAll total arguments start
          refine .after (inside.mono (by omega)) (fun _ _ ended => by simp only [ended]) ?_
          intro values after ended _
          simp only [ended]
          exact .call rfl (total name builtin known values)

theorem walks_evaluateAll (total : setting.registry.Total) (exprs : List Expr) (state : State) :
    setting.Walks (state.depth + Expr.heightOfAll exprs) state (evaluateAll setting exprs state) := by
  match exprs with
  | [] =>
      rw [evaluateAll]
      exact .done rfl ⟨_, rfl⟩
  | expr :: rest =>
      rw [evaluateAll, Expr.heightOfAll]
      have first := walks_evaluate total expr state
      refine .after (first.mono (by omega)) (fun _ _ ended => by simp only [ended]) ?_
      intro value between ended level
      simp only [ended]
      have later := walks_evaluateAll total rest between
      refine .after (later.mono (by omega)) (fun _ _ ended => by simp only [ended]) ?_
      intro values after ended _
      simp only [ended]
      exact .done rfl ⟨_, rfl⟩

end

end Evaluation

end PegText
