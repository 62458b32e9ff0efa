import PegText.Proofs.Evaluation.Meaning
import PegText.Transcript

/-!
What a transcript holds: the emitted texts on lines of their own, but for empty texts at the front.
Whether a line is begun is decided by what the transcript holds, so that such a text leaves no trace
and the line behind it is not begun.
-/

namespace PegText.Transcript

open Evaluation (Setting State meaning evaluate refines_evaluate)

theorem emit_of_empty {transcript : Transcript} (empty : transcript.text.isEmpty = true)
    (text : String) : transcript.emit text = ⟨text⟩ := by
  rw [emit, if_pos empty]

theorem emit_of_filled {transcript : Transcript} (filled : ¬transcript.text.isEmpty = true)
    (text : String) : transcript.emit text = ⟨transcript.text ++ ("\n" ++ text)⟩ := by
  rw [emit, if_neg filled, String.append_assoc]

theorem not_isEmpty_append {front : String} (filled : ¬front.isEmpty = true) (back : String) :
    ¬(front ++ back).isEmpty = true := by
  rw [String.isEmpty_iff] at filled ⊢
  exact fun empty => filled (String.append_eq_empty_iff.mp empty).1

theorem text_emitAll (transcript : Transcript) (texts : List String) :
    (transcript.emitAll texts).text =
      "\n".intercalate ((transcript.text :: texts).dropWhile String.isEmpty) := by
  induction texts generalizing transcript with
  | nil =>
      by_cases empty : transcript.text.isEmpty = true
      · rw [List.dropWhile_cons_of_pos empty]
        exact String.isEmpty_iff.mp empty
      · rw [List.dropWhile_cons_of_neg empty, String.intercalate_singleton]
        rfl
  | cons text rest ih =>
      have step : transcript.emitAll (text :: rest) = (transcript.emit text).emitAll rest := rfl
      by_cases empty : transcript.text.isEmpty = true
      · rw [step, ih, emit_of_empty empty, List.dropWhile_cons_of_pos empty]
      · rw [step, ih, emit_of_filled empty, List.dropWhile_cons_of_neg empty,
          List.dropWhile_cons_of_neg (not_isEmpty_append empty _), String.intercalate_cons_append,
          String.intercalate_cons_append, String.intercalate_cons_cons, String.append_assoc]

theorem text_ofTexts (texts : List String) :
    (ofTexts texts).text = "\n".intercalate (texts.dropWhile String.isEmpty) :=
  text_emitAll empty texts

/-- How many line ends a transcript is short of: one for each empty text at the front that another
text follows. -/
def missing (texts : List String) : Nat :=
  min (texts.takeWhile String.isEmpty).length (texts.length - 1)

def lineEnds (count : Nat) : String := .ofList (List.replicate count '\n')

theorem lineEnds_succ (count : Nat) : lineEnds (count + 1) = "\n" ++ lineEnds count := by
  rw [← String.toList_inj]
  simp [lineEnds, List.replicate_succ]

theorem missing_of_filled {text : String} (filled : ¬text.isEmpty = true) (rest : List String) :
    missing (text :: rest) = 0 := by
  rw [missing, List.takeWhile_cons_of_neg filled]
  exact Nat.zero_min _

theorem missing_of_empty {text : String} (empty : text.isEmpty = true) (next : String)
    (rest : List String) : missing (text :: next :: rest) = missing (next :: rest) + 1 := by
  rw [missing, missing, List.takeWhile_cons_of_pos empty]
  simp only [List.length_cons]
  omega

theorem intercalate_eq (texts : List String) :
    "\n".intercalate texts = lineEnds (missing texts) ++ (ofTexts texts).text := by
  rw [text_ofTexts]
  induction texts with
  | nil => rfl
  | cons text rest ih =>
      by_cases empty : text.isEmpty = true
      · cases rest with
        | nil =>
            rw [List.dropWhile_cons_of_pos empty, String.intercalate_singleton,
              String.isEmpty_iff.mp empty]
            rfl
        | cons next rest =>
            rw [String.intercalate_cons_cons, ih, missing_of_empty empty, lineEnds_succ,
              List.dropWhile_cons_of_pos empty, String.isEmpty_iff.mp empty]
            simp only [String.empty_append, String.append_assoc]
      · rw [missing_of_filled empty, List.dropWhile_cons_of_neg empty]
        exact String.empty_append.symm

theorem missing_eq_zero_iff {texts : List String} :
    missing texts = 0 ↔ texts.head? ≠ some "" ∨ texts.length = 1 := by
  cases texts with
  | nil => exact ⟨fun _ => .inl nofun, fun _ => rfl⟩
  | cons text rest =>
      by_cases empty : text.isEmpty = true
      · rw [String.isEmpty_iff] at empty
        subst empty
        cases rest with
        | nil => exact ⟨fun _ => .inr rfl, fun _ => rfl⟩
        | cons next rest => simp [missing_of_empty]
      · rw [missing_of_filled empty]
        rw [String.isEmpty_iff] at empty
        simp [empty]

theorem text_ofTexts_eq_iff {texts : List String} :
    (ofTexts texts).text = "\n".intercalate texts ↔ missing texts = 0 := by
  rw [intercalate_eq]
  constructor
  · intro same
    have lengths := congrArg String.length same
    simp only [String.length_append, lineEnds, String.length_ofList, List.length_replicate]
      at lengths
    omega
  · intro none
    rw [none]
    exact String.empty_append.symm

/-- What an evaluation emits is what the expression is meant to emit, or the beginning of it where the
limit lies below the height of the expression. -/
theorem emitted_evaluate (registry : Registry) (source : Option Source) (limit : Nat) (expr : Expr) :
    let texts := (evaluate ⟨registry, source, limit⟩ expr .initial).2.emitted
    let meant := (meaning registry source expr).texts
    texts <+: meant ∧ (expr.height ≤ limit → texts = meant) := by
  have refines : Setting.Refines ⟨registry, source, limit⟩ (State.initial.depth + expr.height)
      .initial (meaning registry source expr) (evaluate ⟨registry, source, limit⟩ expr .initial) :=
    refines_evaluate expr .initial
  generalize evaluate ⟨registry, source, limit⟩ expr .initial = result at refines
  cases refines with
  | same => exact ⟨List.prefix_refl _, fun _ => rfl⟩
  | cut low begins =>
      have below : limit < expr.height := Nat.zero_add expr.height ▸ low
      exact ⟨begins, fun room => absurd below (Nat.not_lt.mpr room)⟩

/-- A transcript is short of one line end for each empty text at the front that another text follows,
and of nothing else; so it keeps every line exactly if the first text is not empty or is the only
one. The same goes for what an evaluation emits: the texts that the expression is meant to emit, or
their beginning if the evaluation is cut off. -/
theorem lines_kept_iff (texts : List String) (registry : Registry) (source : Option Source)
    (limit : Nat) (expr : Expr) :
    let emitted := (evaluate ⟨registry, source, limit⟩ expr .initial).2.emitted
    let meant := (meaning registry source expr).texts
    ("\n".intercalate texts = lineEnds (missing texts) ++ (ofTexts texts).text ∧
      ((ofTexts texts).text = "\n".intercalate texts ↔
        texts.head? ≠ some "" ∨ texts.length = 1)) ∧
    (emitted <+: meant ∧ (expr.height ≤ limit → emitted = meant)) ∧
      ((ofTexts emitted).text = "\n".intercalate emitted ↔
        emitted.head? ≠ some "" ∨ emitted.length = 1) := by
  have kept (texts : List String) : (ofTexts texts).text = "\n".intercalate texts ↔
      texts.head? ≠ some "" ∨ texts.length = 1 :=
    text_ofTexts_eq_iff.trans missing_eq_zero_iff
  exact ⟨⟨intercalate_eq texts, kept texts⟩, emitted_evaluate registry source limit expr, kept _⟩

/-- The lines of one call inside another one, with an empty text behind the first. -/
theorem lines_kept_iff_nested :
    let expr : Expr := .call "puts" [.call "puts" [.str "a", .str ""], .str "b"]
    let texts := (evaluate ⟨.standard, none, 3⟩ expr .initial).2.emitted
    expr.height ≤ 3 ∧ texts = (meaning .standard none expr).texts ∧
      texts = ["a", "", "[\"a\", \"\"]", "b"] ∧
        (ofTexts texts).text = "a\n\n[\"a\", \"\"]\nb" := by
  intro expr texts
  have room : expr.height ≤ 3 := by decide
  have emitted : texts = ["a", "", "[\"a\", \"\"]", "b"] := by decide +kernel
  have joined : "\n".intercalate texts = "a\n\n[\"a\", \"\"]\nb" := by
    rw [emitted]
    decide +kernel
  have first : texts.head? ≠ some "" := by
    rw [emitted]
    decide
  obtain ⟨-, ⟨-, whole⟩, kept⟩ := lines_kept_iff texts .standard none 3 expr
  exact ⟨room, whole room, emitted, (kept.mpr (.inl first)).trans joined⟩

/-- An empty line at the front is lost. -/
theorem lost_first_line :
    let expr : Expr := .call "puts" [.str "", .str "a"]
    expr.eval = (.ok (.list [.str "", .str "a"]), ⟨0, ["", "a"]⟩) ∧
      (ofTexts ["", "a"]).text = "a" ∧
        (ofTexts ["", "a"]).text ≠ "\n".intercalate ["", "a"] :=
  ⟨rfl, rfl, by decide⟩

end PegText.Transcript
