import Mathlib.Data.List.DropRight
import PegText.Proofs.Document.Refusal

/-!
The rest of a line as an argument. Behind a name without parentheses the line is read as words with
blanks between them. What comes out is the line without the blanks around it, whatever it holds.
-/

namespace PegText

open CharClass (isInline isNameChar isWordChar)

namespace Language.Directive

def OneLine (text : List Char) : Prop := '\r' ∉ text ∧ '\n' ∉ text

theorem OneLine.of_append {front back : List Char} (oneLine : OneLine (front ++ back)) :
    OneLine front ∧ OneLine back := by
  simp only [OneLine, List.mem_append, not_or] at oneLine ⊢
  exact ⟨⟨oneLine.1.1, oneLine.2.1⟩, oneLine.1.2, oneLine.2.2⟩

theorem OneLine.eq_nil {line : List Char} (oneLine : OneLine line) (noBlank : Clear isInline line)
    (noWord : Clear isWordChar line) : line = [] := by
  cases line with
  | nil => rfl
  | cons c line =>
      have isBlank : isInline c = false := noBlank c rfl
      have inWord : isWordChar c = false := noWord c rfl
      simp only [OneLine, List.mem_cons, not_or] at oneLine
      have accepted : isWordChar c = true := by
        simp [isWordChar, isBlank, Ne.symm oneLine.1.1, Ne.symm oneLine.2.1]
      rw [inWord] at accepted
      cases accepted

theorem OneLine.spellsLine {line : List Char} (oneLine : OneLine line) (filled : line ≠ [])
    (begins : Clear isInline line) (ends : Clear isInline line.reverse) : SpellsLine line := by
  induction size : line.length using Nat.strongRecOn generalizing line with
  | ind total ih =>
      obtain ⟨word, behind, rfl, inWord, wordEnds⟩ := exists_run isWordChar line
      have wordFilled : word ≠ [] := by
        rintro rfl
        exact filled (oneLine.eq_nil begins wordEnds)
      by_cases last : behind = []
      · subst last
        exact .mk ⟨wordFilled, inWord⟩ .nil
      obtain ⟨blanks, more, rfl, inline, blanksEnd⟩ := exists_run isInline behind
      have lineBehind := oneLine.of_append.2
      have blanksFilled : blanks ≠ [] := by
        rintro rfl
        exact last (lineBehind.eq_nil blanksEnd wordEnds)
      have moreFilled : more ≠ [] := by
        rintro rfl
        rw [List.append_nil, List.reverse_append] at ends
        exact not_clear_run (List.reverse_ne_nil_iff.mpr blanksFilled)
          (fun c member => inline c (List.mem_reverse.mp member)) ends
      have endsMore : Clear isInline more.reverse := by
        intro c first
        apply ends c
        simp [first]
      have shorter : more.length < total := by
        have := List.length_pos_iff.mpr wordFilled
        simp only [List.length_append] at size
        omega
      obtain ⟨next, words⟩ :=
        ih more.length shorter lineBehind.of_append.2 moreFilled blanksEnd endsMore rfl
      have spells := SpellsWords.cons blanksFilled inline next words
      rw [List.append_assoc] at spells
      exact .mk ⟨wordFilled, inWord⟩ spells

def trim (text : List Char) : List Char := (text.dropWhile isInline).rdropWhile isInline

theorem clear_dropWhile (accepts : Char → Bool) (text : List Char) :
    Clear accepts (text.dropWhile accepts) := by
  intro c first
  have refused := text.head?_dropWhile_not accepts
  rw [first] at refused
  exact refused

theorem trim_ends (text : List Char) : Clear isInline (trim text).reverse := by
  rw [trim, List.rdropWhile, List.reverse_reverse]
  exact clear_dropWhile _ _

theorem trim_begins (text : List Char) : Clear isInline (trim text) := by
  intro c first
  obtain ⟨after, same⟩ := List.rdropWhile_prefix isInline (text.dropWhile isInline)
  apply clear_dropWhile isInline text c
  rw [trim] at first
  rw [← same, List.head?_append, first]
  rfl

theorem exists_trim (text : List Char) :
    ∃ before after, text = before ++ (trim text ++ after) ∧ Inline before ∧ Inline after := by
  refine ⟨text.takeWhile isInline, (text.dropWhile isInline).rtakeWhile isInline, ?_, ?_, ?_⟩
  · rw [trim, List.rdropWhile_append_rtakeWhile, List.takeWhile_append_dropWhile]
  · exact fun c => List.mem_takeWhile_imp
  · exact fun c => List.mem_rtakeWhile_imp

theorem trim_eq_nil_iff {text : List Char} : trim text = [] ↔ Inline text := by
  constructor
  · intro none
    obtain ⟨before, after, same, blankBefore, blankAfter⟩ := exists_trim text
    rw [same, none, List.nil_append]
    exact List.forall_mem_append.mpr ⟨blankBefore, blankAfter⟩
  · intro blank
    have dropped : text.dropWhile isInline = [] := List.dropWhile_eq_nil_iff.mpr blank
    rw [trim, dropped, List.rdropWhile_nil]

def Apart (line : List Char) : Prop := ∀ c, line.head? = some c → isInline c = true

/-- What stands behind a name is read as one argument without the blanks around it, or as none. -/
theorem exists_argued {line rest : List Char} (oneLine : OneLine line) (apart : Apart line)
    (ends : ∀ c, rest.head? = some c → c = '\r' ∨ c = '\n') :
    ∃ list gap, line = list ++ gap ∧ Inline gap ∧
      Argued (if trim line = [] then [] else [.bare (trim line)]) list (gap ++ rest) := by
  by_cases blank : trim line = []
  · have inline := trim_eq_nil_iff.mp blank
    refine ⟨[], line, rfl, inline, ?_⟩
    rw [if_pos blank]
    refine .none ?_ (.inr ⟨line, rest, rfl, inline, ends⟩)
    intro paren
    cases line with
    | nil => simpa using ends '(' paren
    | cons c line =>
        cases paren
        exact absurd (apart '(' rfl) (by decide)
  · obtain ⟨before, after, same, blankBefore, blankAfter⟩ := exists_trim line
    refine ⟨before ++ trim line, after, by rw [List.append_assoc, ← same], blankAfter, ?_⟩
    rw [if_neg blank]
    have beforeFilled : before ≠ [] := by
      rintro rfl
      obtain ⟨c, inside, shown⟩ := List.exists_cons_of_ne_nil blank
      have accepted : isInline c = true := by
        apply apart
        rw [same, shown]
        rfl
      have refused : isInline c = false := by
        apply trim_begins line
        rw [shown]
        rfl
      rw [accepted] at refused
      cases refused
    have lineInside : OneLine (trim line) := by
      rw [same] at oneLine
      exact oneLine.of_append.2.of_append.1
    have spells := lineInside.spellsLine blank (trim_begins line) (trim_ends line)
    exact .line beforeFilled blankBefore spells ⟨after, rest, rfl, blankAfter, ends⟩

end Language.Directive

namespace Document

open Language.Directive
open String (utf8Len)

/-- The argument that the rest of a line stands for: none if there are only blanks. -/
def lineArguments (line : String) : List Argument :=
  if line.toList.all isInline then [] else [.bare (.ofList (trim line.toList))]

theorem arguments_line (line : String) :
    arguments? (if trim line.toList = [] then [] else [.bare (trim line.toList)]) =
      some (lineArguments line) := by
  have blank : line.toList.all isInline = true ↔ trim line.toList = [] := by
    rw [List.all_eq_true, trim_eq_nil_iff]
    rfl
  by_cases none : trim line.toList = []
  · rw [lineArguments, if_pos none, if_pos (blank.mpr none)]
    rfl
  · rw [lineArguments, if_neg none, if_neg (mt blank.mp none)]
    rfl

def lineBlock (visibility : Visibility) (name line body : String) (list gap : List Char) : Written :=
  { visibility := visibility
    blanks := []
    name := name.toList
    arguments := if trim line.toList = [] then [] else [.bare (trim line.toList)]
    list := list
    gap := gap
    newline := ['\n']
    body := body.toList }

section

variable {visibility : Visibility} {name line body : String} {list gap : List Char}

theorem text_lineBlock (shown : line.toList = list ++ gap) :
    (lineBlock visibility name line body list gap).text =
      (":::" ++ visibility.signs ++ name ++ line ++ "\n" ++ body).toList := by
  simp [lineBlock, Written.text, Written.behindName, opening, marker, shown]

theorem name_lineBlock (filled : name ≠ "")
    (chars : ∀ c ∈ [' ', '\t', '\r', '\n', '(', ')'], c ∉ name.toList) :
    name.toList ≠ [] ∧ ∀ c ∈ name.toList, isNameChar c = true := by
  refine ⟨fun none => filled (String.toList_eq_nil_iff.mp none), fun c member => ?_⟩
  have other (d : Char) (excluded : d ∈ [' ', '\t', '\r', '\n', '(', ')']) : c ≠ d := by
    rintro rfl
    exact chars c excluded member
  simp [isNameChar, isWordChar, isInline, other]

theorem fits_lineBlock (filled : name ≠ "")
    (chars : ∀ c ∈ [' ', '\t', '\r', '\n', '(', ')'], c ∉ name.toList)
    (apart : Apart line.toList) (unopened : Unopened body.toList)
    (shown : line.toList = list ++ gap) (inline : Inline gap)
    (argued : Argued (if trim line.toList = [] then [] else [.bare (trim line.toList)]) list
      (gap ++ '\n' :: body.toList)) :
    (lineBlock visibility name line body list gap).Fits [] := by
  constructor
  case blanks => simp [lineBlock, Inline]
  case name => exact name_lineBlock filled chars
  case nameEnds =>
    intro c first
    have behind : (line.toList ++ '\n' :: body.toList).head? = some c := by
      rw [shown]
      simpa [lineBlock, Written.behindName] using first
    cases same : line.toList with
    | nil =>
        rw [same] at behind
        cases behind
        decide
    | cons d rest =>
        rw [same] at behind
        cases behind
        have accepted : isInline c = true := apart c (by rw [same]; rfl)
        simp [isNameChar, isWordChar, accepted]
  case arguments => simpa [lineBlock] using argued
  case gap => exact inline
  case gapEnds => exact Language.Clear.cons (by decide)
  case newline => exact .unix
  case body => exact unopened

end

/-- Behind a name without parentheses, the rest of the line is the argument. The blanks around it
are left out. -/
theorem parse_rest_of_line (visibility : Visibility) {name line body : String} (filled : name ≠ "")
    (chars : ∀ c ∈ [' ', '\t', '\r', '\n', '(', ')'], c ∉ name.toList)
    (oneLine : '\r' ∉ line.toList ∧ '\n' ∉ line.toList)
    (apart : ∀ c, line.toList.head? = some c → c = ' ' ∨ c = '\t')
    (unopened : Unopened body.toList) :
    let text := ":::" ++ visibility.signs ++ name ++ line ++ "\n" ++ body
    parse text =
      .ok ⟨text,
        [.directive ⟨name, lineArguments line, visibility, body, ⟨0, text.utf8ByteSize⟩⟩]⟩ := by
  intro text
  have blankApart : Apart line.toList := by
    intro c first
    simpa [isInline] using apart c first
  have ends : ∀ c, ('\n' :: body.toList).head? = some c → c = '\r' ∨ c = '\n' := by simp
  obtain ⟨list, gap, shown, inline, argued⟩ := exists_argued oneLine blankApart ends
  let block := lineBlock visibility name line body list gap
  have sameText : block.text = text.toList := text_lineBlock shown
  have fits : block.Fits [] :=
    fits_lineBlock filled chars blankApart unopened shown inline argued
  have laidOut : LaidOut text.toList [] [block] := by
    refine ⟨unopened_nil, text.toList, rfl, ?_⟩
    rw [← sameText, ← List.append_nil block.text]
    exact .cons fits .nil
  have known : segmentsOf? [] [block] =
      some [.directive ⟨name, lineArguments line, visibility, body, ⟨0, text.utf8ByteSize⟩⟩] := by
    have read : arguments? block.arguments = some (lineArguments line) := arguments_line line
    simp [segmentsOf?, segments?, Written.directive?, read, inFront, sameText, String.utf8Len_toList]
    simp [block, lineBlock]
  exact parse_eq_ok_iff.mpr ⟨[], [block], _, laidOut, known, rfl⟩

/-- An opening within the line belongs to the argument. -/
theorem parse_rest_of_line_marker :
    Unopened "a::".toList ∧
      parse ":::>-$ \tcat (x), 'y' :::>>  \na::" =
        .ok
          { source := ":::>-$ \tcat (x), 'y' :::>>  \na::"
            segments :=
              [.directive
                { name := "$"
                  arguments := [.bare "cat (x), 'y' :::>>"]
                  visibility := ⟨.visible, .hidden⟩
                  body := "a::"
                  span := ⟨0, 32⟩ }] } := by
  have unopened : Unopened "a::".toList := by
    rintro ⟨_ | _, _ | _⟩ <;> rw [opening_cons] <;> decide
  have chars : ∀ c ∈ [' ', '\t', '\r', '\n', '(', ')'], c ∉ "$".toList := by simp
  have apart : ∀ c, " \tcat (x), 'y' :::>>  ".toList.head? = some c → c = ' ' ∨ c = '\t' := by
    intro c first
    cases first
    exact .inl rfl
  have read := parse_rest_of_line ⟨.visible, .hidden⟩ (by decide) chars
    (by decide : '\r' ∉ " \tcat (x), 'y' :::>>  ".toList ∧ '\n' ∉ " \tcat (x), 'y' :::>>  ".toList)
    apart unopened
  have written : ":::" ++ (⟨.visible, .hidden⟩ : Visibility).signs ++ "$" ++
      " \tcat (x), 'y' :::>>  " ++ "\n" ++ "a::" = ":::>-$ \tcat (x), 'y' :::>>  \na::" := by
    decide +kernel
  have arguments : lineArguments " \tcat (x), 'y' :::>>  " = [.bare "cat (x), 'y' :::>>"] := by
    decide +kernel
  have size : ":::>-$ \tcat (x), 'y' :::>>  \na::".utf8ByteSize = 32 := by decide +kernel
  simp only [written, arguments, size] at read
  exact ⟨unopened, read⟩

end Document

end PegText
