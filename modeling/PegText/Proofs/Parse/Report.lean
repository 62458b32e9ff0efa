import PegText.Proofs.Parse.Misses

/-!
What a mismatch reports: the furthest failure of the parse, all that was expected there, and what
stands there instead.
-/

namespace PegText

def alternatives : List String → String
  | [text] => text
  | texts => "one of " ++ ", ".intercalate texts

theorem Progress.expectation_eq {progress : Progress} (some : progress.expected ≠ []) :
    progress.expectation = alternatives progress.expected := by
  rw [expectation]
  cases shown : progress.expected with
  | nil => exact (some shown).elim
  | cons first rest => cases rest <;> rfl

inductive Labels (text : String) (position : Nat) : Span → String → Prop
  | character {before c behind} : text.toList = before ++ c :: behind →
      String.utf8Len before = position →
      Labels text position ⟨position, position + c.utf8Size⟩ (Quoted.character c)
  | atEnd : text.utf8ByteSize = position → Labels text position ⟨position, position⟩ "end of input"

theorem Labels.start {text : String} {position : Nat} {span : Span} {found : String}
    (labels : Labels text position span found) : span.start = position := by
  cases labels <;> rfl

theorem Labels.isEmpty_iff {text : String} {position : Nat} {span : Span} {found : String}
    (labels : Labels text position span found) :
    span.isEmpty = true ↔ position = text.utf8ByteSize ∧ found = "end of input" := by
  cases labels with
  | @character before c behind same width =>
      have bytes : text.utf8ByteSize = String.utf8Len before + (String.utf8Len behind + c.utf8Size) := by
        rw [← String.utf8Len_toList, same, String.utf8Len_append, String.utf8Len_cons]
      have wide := c.utf8Size_pos
      simp only [Span.isEmpty, beq_iff_eq]
      omega
  | atEnd ended => simp [Span.isEmpty, ended]

/-- The report of progress that got to a position of the source. -/
theorem Progress.mismatch_reports {progress : Progress} {source : Source} {passed : List Char}
    {stop : Cursor} (passes : (Cursor.start source.text).Passes passed stop)
    (furthest : stop.offset = progress.furthest) :
    ∃ span found, (progress.mismatch source).cause = .unexpectedInput progress.expectation found ∧
      (progress.mismatch source).place = some ⟨source, span⟩ ∧
        Labels source.text progress.furthest span found := by
  have width : String.utf8Len passed = progress.furthest := by
    rw [← furthest, passes.offset]
    exact (Nat.zero_add _).symm
  have there : (Cursor.start source.text).advance progress.furthest = stop := by
    rw [← width, passes.advance]
  obtain ⟨offset, rest⟩ := stop
  cases furthest
  refine ⟨_, _, rfl, rfl, ?_⟩
  rw [there]
  cases rest with
  | nil =>
      obtain ⟨-, ended⟩ := passes.of_ended rfl
      exact .atEnd ended.symm
  | cons c behind => exact .character passes.rest width

namespace Grammar

/-- The failures of a parse outside lookaheads, with the one of a match that stops short. -/
def failures (grammar : Grammar) (id : Fin grammar.size) (text : String) (limit : Nat) :
    Set Failure :=
  grammar.rules.misses limit (.node (grammar.rules.get id).body) (.start text) .initial ∪
    { failure | ∃ output stop, (grammar.run id text limit).1 = .matched output stop ∧
      failure = ⟨stop.offset, "end of input"⟩ }

variable {grammar : Grammar}

/-- A parse that stays within its limit and gives no tree reports what it has kept of its failures. -/
theorem reports_of_refused {facts : FactTable grammar.size} (accepted : grammar.rules.Accepted facts)
    {id : Fin grammar.size} {source : Source} {limit : Nat} {diagnostic : Diagnostic}
    (settled : (grammar.run id source.text limit).2.exceeded = none)
    (refused : grammar.parseWith id source limit = .error diagnostic) :
    (grammar.failures id source.text limit).Nonempty ∧
      ∃ progress : Progress, diagnostic = progress.mismatch source ∧
        RuleTable.Tells (grammar.failures id source.text limit) (.start source.text) .initial
          progress := by
  have within := grammar.rules.body_mem_nodes id
  have tells := accepted.run_tells within (.start source.text) .initial rfl settled
  have seen := RuleTable.lookahead_run grammar.rules limit (grammar.rules.get id).body
    (.start source.text) .initial
  rw [parseWith] at refused
  rw [failures]
  rcases ran : grammar.run id source.text limit with ⟨outcome, progress⟩
  have same : grammar.rules.run limit (grammar.rules.get id).body (.start source.text) .initial =
      (outcome, progress) := ran
  rw [ran] at settled refused
  rw [same] at tells seen
  have fine : progress.exceeded = none := settled
  cases outcome with
  | failed failure =>
      simp only [conclude, fine] at refused
      cases refused
      simp only [reduceCtorEq, false_and, exists_false, Set.ofPred_false, Set.union_empty]
      exact ⟨⟨failure, .here (by rw [same])⟩, progress, rfl, tells⟩
  | matched output stop =>
      obtain ⟨passed, passes⟩ := accepted.passes_of_run within same
      simp only [conclude, fine] at refused
      split at refused
      · cases refused
      · cases refused
        have short : { failure : Failure | ∃ yielded end', Outcome.matched output stop =
            .matched yielded end' ∧ failure = ⟨end'.offset, "end of input"⟩ } =
              {⟨stop.offset, "end of input"⟩} := by
          ext failure
          simp
        rw [short]
        exact ⟨⟨_, .inr rfl⟩, _, rfl, tells.trans (.refl _) (.note seen passes _)⟩

/-- A mismatch is reported at the furthest failure. Where a parse gives no tree and is not too deep,
something has failed outside all lookaheads, if only the match at the end of the text. The report
names the greatest position of such a failure; it lists, each once and in order, what the failures
there expected; and it marks the character that stands there, or nothing where that is the end. -/
theorem Draft.mismatch_points_at_furthest {read : CharClass.Reader} {draft : Draft}
    (built : draft.build? read = some (.ok grammar)) {rule : Option String} {id : Fin grammar.size}
    (known : grammar.startRule? rule = some id) {source : Source} {limit : Nat}
    {diagnostic : Diagnostic} (refused : grammar.parseNested rule source limit = .error diagnostic)
    (shallow : ¬grammar.TooDeep rule source limit) :
    (grammar.failures id source.text limit).Nonempty ∧
      ∃ furthest expected span found,
        IsGreatest (Failure.position '' grammar.failures id source.text limit) furthest ∧
        (expected ≠ [] ∧ Names.Sorted expected ∧
          ∀ text, text ∈ expected ↔ ⟨furthest, text⟩ ∈ grammar.failures id source.text limit) ∧
        diagnostic.cause = .unexpectedInput (alternatives expected) found ∧
        diagnostic.place = some ⟨source, span⟩ ∧ Labels source.text furthest span found ∧
        (span.isEmpty = true ↔ furthest = source.text.utf8ByteSize ∧ found = "end of input") := by
  obtain ⟨facts, accepted⟩ := accepted_of_build? built
  have settled : (grammar.run id source.text limit).2.exceeded = none := by
    by_contra exceeds
    exact shallow ((tooDeep_iff_exceeded known).mpr exceeds)
  rw [parseNested_eq_parseWith known] at refused
  obtain ⟨some, progress, rfl, tells⟩ := reports_of_refused accepted settled refused
  have keeps := tells.keeps ∅ .initial
  rw [Set.empty_union] at keeps
  have greatest := keeps.isGreatest some
  obtain ⟨⟨position, text⟩, member, furthest⟩ := greatest.1
  have expecting : text ∈ progress.expected := by
    rw [keeps.expected, ← furthest]
    exact member
  have several : progress.expected ≠ [] := List.ne_nil_of_mem expecting
  obtain ⟨passed, stop, passes, reached⟩ := tells.positions _ member
  obtain ⟨span, found, cause, place, labels⟩ := progress.mismatch_reports passes
    (reached.trans furthest)
  rw [progress.expectation_eq several] at cause
  exact ⟨some, progress.furthest, progress.expected, span, found, greatest,
    ⟨several, keeps.sorted, keeps.expected⟩, cause, place, labels, labels.isEmpty_iff⟩

/-- The table has ended in front of the semicolon, where a comma or the end could have stood. -/
theorem Draft.mismatch_points_at_furthest_table :
    table.build? CharClass.read = some (.ok tableGrammar) ∧
      tableGrammar.startRule? none = some tableId ∧
      ¬tableGrammar.TooDeep none (.ofInput "éa;") 20 ∧
      ∃ diagnostic, tableGrammar.parseNested none (.ofInput "éa;") 20 = .error diagnostic ∧
        diagnostic.cause = .unexpectedInput "one of ',', end of input" "';'" ∧
        (tableGrammar.failures tableId "éa;" 20).Nonempty ∧
        IsGreatest (Failure.position '' tableGrammar.failures tableId "éa;" 20) 3 ∧
        Labels "éa;" 3 ⟨3, 4⟩ "';'" := by
  have root : tableGrammar.startRule? none = some tableId := rfl
  have within : ¬tableGrammar.TooDeep none (.ofInput "éa;") 20 := by
    rw [tooDeep_iff_exceeded root, not_not]
    decide +kernel
  have reported : (match tableGrammar.parseNested none (.ofInput "éa;") 20 with
      | .ok _ => none
      | .error diagnostic => some (diagnostic.cause, diagnostic.place)) =
        some (.unexpectedInput "one of ',', end of input" "';'",
          some ⟨.ofInput "éa;", ⟨3, 4⟩⟩) := by
    decide +kernel
  cases refused : tableGrammar.parseNested none (.ofInput "éa;") 20 with
  | ok capture =>
      rw [refused] at reported
      cases reported
  | error diagnostic =>
      rw [refused] at reported
      obtain ⟨caused, placed⟩ := Prod.mk.inj (Option.some.inj reported)
      obtain ⟨some, furthest, expected, span, found, greatest, -, cause, place, labels, -⟩ :=
        mismatch_points_at_furthest build?_table root refused within
      obtain ⟨-, rfl⟩ := Cause.unexpectedInput.inj (cause.symm.trans caused)
      obtain ⟨-, rfl⟩ := Place.mk.inj (Option.some.inj (place.symm.trans placed))
      cases labels.start
      exact ⟨build?_table, root, within, diagnostic, rfl, caused, some, greatest, labels⟩

end Grammar

end PegText
