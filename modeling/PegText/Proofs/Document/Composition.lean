import PegText.Proofs.Document.Reading

/-!
Documents one behind the other: where the first one ends with a line and the second one begins
with a block, neither changes how the other is read.
-/

namespace PegText

open String (utf8Len)

namespace Language.Directive

theorem Written.directive?_shift (bytes : Nat) (block : Written) (span : Span) :
    block.directive? (span.shift bytes) =
      (block.directive? span).map fun directive =>
        { directive with span := directive.span.shift bytes } := by
  rw [Written.directive?, Written.directive?, Option.map_map]
  rfl

theorem segments?_shift (bytes start : Nat) (blocks : List Written) :
    segments? (bytes + start) blocks =
      (segments? start blocks).map fun segments => segments.map (Segment.shift bytes) := by
  induction blocks generalizing start with
  | nil => rfl
  | cons block blocks ih =>
      have shifted : (⟨bytes + start, bytes + start + utf8Len block.text⟩ : Span) =
          Span.shift bytes ⟨start, start + utf8Len block.text⟩ := by
        rw [Span.shift, Nat.add_assoc]
      have later := ih (start + utf8Len block.text)
      rw [← Nat.add_assoc] at later
      rw [segments?, segments?, shifted, Written.directive?_shift, later]
      cases block.directive? ⟨start, start + utf8Len block.text⟩ with
      | none => rfl
      | some directive => cases segments? (start + utf8Len block.text) blocks <;> rfl

theorem segments?_append {blocks : List Written} {rest : List Char} (layout : Layout blocks rest)
    (start : Nat) (others : List Written) :
    segments? start (blocks ++ others) =
      (segments? start blocks).bind fun segments =>
        (segments? (start + utf8Len rest) others).map (segments ++ ·) := by
  induction layout generalizing start with
  | nil => simp [segments?]
  | @cons block blocks rest _ _ ih =>
      have later := ih (start + utf8Len block.text)
      rw [Nat.add_assoc, ← String.utf8Len_append] at later
      rw [List.cons_append, segments?, segments?, later]
      cases block.directive? ⟨start, start + utf8Len block.text⟩ with
      | none => rfl
      | some directive =>
          cases segments? (start + utf8Len block.text) blocks with
          | none => rfl
          | some segments =>
              cases segments? (start + utf8Len (block.text ++ rest)) others <;> rfl

end Language.Directive

namespace Document

open Language.Directive

theorem segmentsOf?_append {text front : List Char} {blocks others : List Written}
    (laidOut : LaidOut text front blocks) :
    segmentsOf? front (blocks ++ others) =
      (segmentsOf? front blocks).bind fun segments =>
        (segmentsOf? [] others).map fun behind =>
          segments ++ behind.map (Segment.shift (utf8Len text)) := by
  obtain ⟨rest, rfl, layout⟩ := laidOut.behind
  have shifted := segments?_shift (utf8Len (front ++ rest)) 0 others
  rw [Nat.add_zero, String.utf8Len_append] at shifted
  simp only [segmentsOf?, segments?_append layout, shifted, inFront, String.utf8Len_nil]
  cases segments? (utf8Len front) blocks with
  | none => rfl
  | some segments => cases segments? 0 others <;> simp [String.utf8Len_append]

/-- Two documents of which the first ends with a line and the second begins with a block are read
from one text as they are read alone. -/
theorem parse_append {text more : String} {first second : Document}
    (readFirst : parse text = .ok first) (readSecond : parse more = .ok second)
    (ends : text = "" ∨ text.toList.getLast? = some '\n')
    (begins : more = "" ∨ ∃ visibility, opening visibility <+: more.toList) :
    parse (text ++ more) =
      .ok ⟨text ++ more,
        first.segments ++ second.segments.map (Segment.shift text.utf8ByteSize)⟩ := by
  obtain ⟨front, blocks, segments, laidOut, known, rfl⟩ := parse_eq_ok_iff.mp readFirst
  obtain ⟨none, others, behind, laidOutBehind, knownBehind, rfl⟩ :=
    parse_eq_ok_iff.mp readSecond
  have opens : Opens more.toList := by
    rw [Opens, String.toList_eq_nil_iff]
    exact begins
  have endsLine : text.toList = [] ∨ EndsLine text.toList := by
    rw [String.toList_eq_nil_iff]
    exact ends
  have empty := laidOutBehind.front_eq_nil opens
  subst empty
  have layoutMore : Layout others more.toList := by
    obtain ⟨rest, same, layout⟩ := laidOutBehind.behind
    rw [same]
    exact layout
  have together : LaidOut (text ++ more).toList front (blocks ++ others) := by
    rw [String.toList_append]
    exact laidOut.append layoutMore endsLine
  have segmentsTogether := @segmentsOf?_append _ _ _ others laidOut
  rw [known, knownBehind, Option.bind_some, Option.map_some] at segmentsTogether
  refine parse_eq_ok_iff.mpr ⟨front, blocks ++ others, _, together, segmentsTogether, ?_⟩
  rw [String.utf8Len_toList]

def frontDocument : Document where
  source := "é\n:::>- f(1)\nb\n"
  segments :=
    [.text "é\n" ⟨0, 3⟩,
     .directive
      { name := "f"
        arguments := [.int 1]
        visibility := ⟨.visible, .hidden⟩
        body := "b\n"
        span := ⟨3, 16⟩ }]

def backDocument : Document where
  source := ":::-> g"
  segments :=
    [.directive
      { name := "g"
        arguments := []
        visibility := ⟨.hidden, .visible⟩
        body := ""
        span := ⟨0, 7⟩ }]

theorem eq_ok_of_toOption {ε α : Type} {answer : Except ε α} {result : α}
    (evaluated : answer.toOption = some result) : answer = .ok result := by
  cases answer with
  | error => cases evaluated
  | ok value => exact congrArg _ (Option.some.inj evaluated)

theorem parse_append_front_back :
    parse "é\n:::>- f(1)\nb\n" = .ok frontDocument ∧ parse ":::-> g" = .ok backDocument ∧
      "é\n:::>- f(1)\nb\n".toList.getLast? = some '\n' ∧
      opening ⟨.hidden, .visible⟩ <+: ":::-> g".toList ∧
      parse ("é\n:::>- f(1)\nb\n" ++ ":::-> g") =
        .ok ⟨"é\n:::>- f(1)\nb\n" ++ ":::-> g",
          frontDocument.segments ++ backDocument.segments.map (Segment.shift 16)⟩ := by
  have readFront : parse "é\n:::>- f(1)\nb\n" = .ok frontDocument := by
    apply eq_ok_of_toOption
    rw [parse, parseSource, grammar_eq]
    decide +kernel
  have readBack : parse ":::-> g" = .ok backDocument := by
    apply eq_ok_of_toOption
    rw [parse, parseSource, grammar_eq]
    decide +kernel
  have ends : "é\n:::>- f(1)\nb\n".toList.getLast? = some '\n' := by decide +kernel
  have begins : opening ⟨.hidden, .visible⟩ <+: ":::-> g".toList := by
    rw [opening_cons]
    decide +kernel
  exact ⟨readFront, readBack, ends, begins,
    parse_append readFront readBack (.inr ends) (.inr ⟨_, begins⟩)⟩

end Document

end PegText
