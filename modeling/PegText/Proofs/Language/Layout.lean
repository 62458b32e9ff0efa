import PegText.Proofs.Language.Argument
import PegText.Proofs.Language.Blocks

/-!
How documents are laid out: text in which no block begins, and blocks one behind the other. Where
a name, an argument or a line ends depends on what stands behind it, so each part is described
together with the text that follows.
-/

namespace PegText.Language.Directive

open CharClass (isInline isNameChar isWordChar)
open String (utf8Len)

def Word (text : List Char) : Prop := text ≠ [] ∧ ∀ c ∈ text, isWordChar c = true

inductive SpellsWords : List Char → Prop
  | nil : SpellsWords []
  | cons {blanks word more} : blanks ≠ [] → Inline blanks → Word word → SpellsWords more →
      SpellsWords (blanks ++ word ++ more)

inductive SpellsLine : List Char → Prop
  | mk {word more} : Word word → SpellsWords more → SpellsLine (word ++ more)

def LineEnds (rest : List Char) : Prop :=
  ∃ blanks tail, rest = blanks ++ tail ∧ Inline blanks ∧
    ∀ c, tail.head? = some c → c = '\r' ∨ c = '\n'

/-- How the arguments behind a name are written, in front of what follows them: in parentheses,
or as the rest of the line, or not at all. -/
inductive Argued : List Phrase → List Char → List Char → Prop
  | list {phrases text rest} : SpellsList phrases text → Argued phrases text rest
  | line {blanks line rest} : blanks ≠ [] → Inline blanks → SpellsLine line → LineEnds rest →
      Argued [.bare line] (blanks ++ line) rest
  | none {rest} : rest.head? ≠ some '(' → Clear isInline rest ∨ LineEnds rest → Argued [] [] rest

inductive NewLine : List Char → List Char → Prop
  | windows {rest} : NewLine ['\r', '\n'] rest
  | unix {rest} : NewLine ['\n'] rest
  | none {rest} : ¬['\r', '\n'] <+: rest → ¬['\n'] <+: rest → NewLine [] rest

structure Written where
  visibility : Visibility
  blanks : List Char
  name : List Char
  arguments : List Phrase
  list : List Char
  gap : List Char
  newline : List Char
  body : List Char

namespace Written

def behindName (block : Written) : List Char :=
  block.list ++ (block.gap ++ (block.newline ++ block.body))

def text (block : Written) : List Char :=
  opening block.visibility ++ block.blanks ++ (block.name ++ block.behindName)

structure Fits (block : Written) (rest : List Char) : Prop where
  blanks : Inline block.blanks
  name : block.name ≠ [] ∧ ∀ c ∈ block.name, isNameChar c = true
  nameEnds : Clear isNameChar (block.behindName ++ rest)
  arguments : Argued block.arguments block.list (block.gap ++ (block.newline ++ (block.body ++ rest)))
  gap : Inline block.gap
  gapEnds : Clear isInline (block.newline ++ (block.body ++ rest))
  newline : NewLine block.newline (block.body ++ rest)
  body : Unopened block.body

end Written

inductive Shows (block : Written) (stop : Nat) : Capture → Prop
  | mk {name captures start command result} : name.text = .ofList block.name →
      List.Forall₂ Phrase.Pictures block.arguments captures →
      Shows block stop
        (.tagged "code"
          (.record
            [("arglist", .list captures), ("funcall", .atom name),
             ("stdin", .atom ⟨.ofList block.body, start, stop⟩),
             ("visibility", block.visibility.capture command result)]))

inductive ShowsAll : Nat → List Written → List Capture → Prop
  | nil {start} : ShowsAll start [] []
  | cons {start block blocks capture captures} : Shows block (start + utf8Len block.text) capture →
      ShowsAll (start + utf8Len block.text) blocks captures →
      ShowsAll start (block :: blocks) (capture :: captures)

inductive Layout : List Written → List Char → Prop
  | nil : Layout [] []
  | cons {block blocks rest} : Written.Fits block rest → Layout blocks rest →
      Layout (block :: blocks) (block.text ++ rest)

/-- A text that is laid out as text, up to the first block, and blocks. -/
structure LaidOut (text front : List Char) (blocks : List Written) : Prop where
  unopened : Unopened front
  behind : ∃ rest, text = front ++ rest ∧ Layout blocks rest

def Opens (rest : List Char) : Prop := rest = [] ∨ ∃ visibility, opening visibility <+: rest

theorem Layout.opens {blocks : List Written} {text : List Char} (layout : Layout blocks text) :
    Opens text := by
  cases layout with
  | nil => exact .inl rfl
  | @cons block blocks rest =>
      refine .inr ⟨block.visibility, ?_⟩
      rw [Written.text, List.append_assoc, List.append_assoc]
      exact List.prefix_append _ _

theorem opening_cons (visibility : Visibility) :
    opening visibility =
      [':', ':', ':', visibility.command.sign, visibility.result.sign] := by
  rw [opening_eq, Visibility.signs, String.toList_ofList]
  rfl

theorem sign_ne_colon (flag : Flag) : flag.sign ≠ ':' := by
  cases flag <;> decide

/-- An opening that begins in a text does not reach into the next one. -/
theorem opening_within {visibility : Visibility} {text rest : List Char} (filled : text ≠ [])
    (opens : Opens rest) (begins : opening visibility <+: text ++ rest) :
    opening visibility <+: text := by
  rcases opens with rfl | ⟨other, tail, rfl⟩
  · rwa [List.append_nil] at begins
  rw [opening_cons] at begins ⊢
  rw [opening_cons] at begins
  -- a flag of the first opening would lie on a colon of the second
  match text with
  | [] => exact (filled rfl).elim
  | [_] | [_, _] | [_, _, _] =>
      simp only [List.cons_append, List.nil_append, List.cons_prefix_cons] at begins
      exact (sign_ne_colon visibility.command begins.2.2.2.1).elim
  | [_, _, _, _] =>
      simp only [List.cons_append, List.nil_append, List.cons_prefix_cons] at begins
      exact (sign_ne_colon visibility.result begins.2.2.2.2.1).elim
  | _ :: _ :: _ :: _ :: _ :: _ => simpa [List.cons_prefix_cons] using begins

theorem Unopened.append_opening {text rest : List Char} (unopened : Unopened text)
    (opens : Opens rest) (filled : text ≠ []) (visibility : Visibility) :
    ¬opening visibility <+: text ++ rest :=
  fun begins => unopened visibility (opening_within filled opens begins).isInfix

def EndsLine (text : List Char) : Prop := text.getLast? = some '\n'

section

variable {front run back text rest more : List Char}

theorem EndsLine.ne_nil (ends : EndsLine text) : text ≠ [] := by
  rintro rfl
  cases ends

theorem EndsLine.of_append (ends : EndsLine (front ++ back)) (filled : back ≠ []) :
    EndsLine back := by
  rw [EndsLine, List.getLast?_append] at ends
  rw [EndsLine, ← ends]
  cases same : back.getLast? with
  | none => exact (filled (List.getLast?_eq_none_iff.mp same)).elim
  | some c => rfl

/-- A text that ends with a line does not end within a run that has no line end. -/
theorem EndsLine.behind (ends : EndsLine (run ++ back)) (inside : '\n' ∉ run) : EndsLine back := by
  refine ends.of_append ?_
  rintro rfl
  rw [List.append_nil] at ends
  exact inside (List.mem_of_getLast? ends)

theorem EndsLine.behind_run {accepts : Char → Bool} (ends : EndsLine (run ++ back))
    (all : ∀ c ∈ run, accepts c = true) (refused : accepts '\n' = false) : EndsLine back := by
  refine ends.behind fun member => ?_
  have accepted := all _ member
  rw [refused] at accepted
  cases accepted

theorem LineEnds.append (lineEnds : LineEnds rest) (ends : EndsLine rest) :
    LineEnds (rest ++ more) := by
  obtain ⟨blanks, tail, rfl, inline, sign⟩ := lineEnds
  have filled : tail ≠ [] := (ends.behind_run inline (by decide)).ne_nil
  refine ⟨blanks, tail ++ more, List.append_assoc _ _ _, inline, ?_⟩
  cases tail with
  | nil => exact (filled rfl).elim
  | cons c tail => exact sign

theorem Argued.append {phrases : List Phrase} (argued : Argued phrases text rest)
    (ends : EndsLine rest) : Argued phrases text (rest ++ more) := by
  cases argued with
  | list spells => exact .list spells
  | line filled inline spells lineEnds => exact .line filled inline spells (lineEnds.append ends)
  | none other clear =>
      refine .none ?_ ?_
      · cases rest with
        | nil => cases ends
        | cons c rest => exact other
      · rcases clear with clear | lineEnds
        · exact .inl (clear.append ends.ne_nil)
        · exact .inr (lineEnds.append ends)

theorem NewLine.append {newline : List Char} (isNewLine : NewLine newline rest)
    (ends : newline = [] → EndsLine rest) : NewLine newline (rest ++ more) := by
  cases isNewLine with
  | windows => exact .windows
  | unix => exact .unix
  | none noWindows noUnix =>
      have endsHere := ends rfl
      match rest with
      | [] => cases endsHere
      | [c] =>
          cases endsHere
          exact (noUnix (List.prefix_refl _)).elim
      | c :: d :: rest =>
          refine .none ?_ ?_
          · simpa [List.cons_prefix_cons] using noWindows
          · simpa [List.cons_prefix_cons] using noUnix

theorem SpellsWords.not_mem (spells : SpellsWords text) : '\n' ∉ text := by
  induction spells with
  | nil => exact List.not_mem_nil
  | cons _ inline word _ ih =>
      simp only [List.mem_append, not_or]
      refine ⟨⟨fun member => ?_, fun member => ?_⟩, ih⟩
      · exact absurd (inline _ member) (by decide)
      · exact absurd (word.2 _ member) (by decide)

theorem SpellsLine.not_mem (spells : SpellsLine text) : '\n' ∉ text := by
  obtain ⟨word, words⟩ := spells
  simp only [List.mem_append, not_or]
  exact ⟨fun member => absurd (word.2 _ member) (by decide), words.not_mem⟩

theorem SpellsList.getLast? {phrases : List Phrase} (spells : SpellsList phrases text) :
    text.getLast? = some ')' := by
  cases spells with
  | empty => exact List.getLast?_concat
  | cons =>
      rw [← List.append_assoc]
      exact List.getLast?_concat

/-- Behind the arguments a line has to end, if it ends at all. -/
theorem Argued.endsLine {phrases : List Phrase} (argued : Argued phrases text rest)
    (ends : EndsLine (text ++ rest)) : EndsLine rest := by
  cases argued with
  | none => exact ends
  | line _ inline spells =>
      rw [List.append_assoc] at ends
      exact (ends.behind_run inline (by decide)).behind spells.not_mem
  | list spells =>
      refine ends.of_append ?_
      rintro rfl
      rw [List.append_nil, EndsLine, spells.getLast?] at ends
      cases ends

end

/-- A block that fits in front of a text that ends with a line fits in front of a longer one. -/
theorem Written.Fits.append {block : Written} {rest more : List Char} (fits : block.Fits rest)
    (ends : EndsLine (block.text ++ rest)) : block.Fits (rest ++ more) := by
  have behindName : EndsLine (block.behindName ++ rest) := by
    rw [Written.text, List.append_assoc, List.append_assoc block.name] at ends
    have fromName := ends.of_append (List.append_ne_nil_of_left_ne_nil fits.name.1 _)
    exact fromName.behind_run fits.name.2 (by decide)
  have behindList : EndsLine (block.gap ++ (block.newline ++ (block.body ++ rest))) := by
    simp only [Written.behindName, List.append_assoc] at behindName
    exact fits.arguments.endsLine behindName
  have behindGap : EndsLine (block.newline ++ (block.body ++ rest)) :=
    behindList.behind_run fits.gap (by decide)
  constructor
  case blanks => exact fits.blanks
  case name => exact fits.name
  case nameEnds =>
    rw [← List.append_assoc]
    exact fits.nameEnds.append behindName.ne_nil
  case arguments => simpa only [List.append_assoc] using fits.arguments.append behindList
  case gap => exact fits.gap
  case gapEnds => simpa only [List.append_assoc] using fits.gapEnds.append behindGap.ne_nil
  case newline =>
    rw [← List.append_assoc]
    refine fits.newline.append fun none => ?_
    rwa [none, List.nil_append] at behindGap
  case body => exact fits.body

theorem Layout.append {blocks others : List Written} {text more : List Char}
    (layout : Layout blocks text) (behind : Layout others more)
    (ends : text = [] ∨ EndsLine text) : Layout (blocks ++ others) (text ++ more) := by
  induction layout with
  | nil => exact behind
  | @cons block blocks rest fits _ ih =>
      have filled : block.text ++ rest ≠ [] := by
        rw [Written.text, opening_cons]
        simp
      have endsHere := ends.resolve_left filled
      have endsBehind : rest = [] ∨ EndsLine rest := by
        by_cases empty : rest = []
        · exact .inl empty
        · exact .inr (endsHere.of_append empty)
      rw [List.append_assoc, List.cons_append]
      exact .cons (fits.append endsHere) (ih endsBehind)

theorem LaidOut.front_eq_nil {text front : List Char} {blocks : List Written}
    (laidOut : LaidOut text front blocks) (opens : Opens text) : front = [] := by
  obtain ⟨rest, rfl, layout⟩ := laidOut.behind
  rcases opens with empty | ⟨visibility, begins⟩
  · exact (List.append_eq_nil_iff.mp empty).1
  · by_contra filled
    exact laidOut.unopened.append_opening layout.opens filled visibility begins

theorem LaidOut.append {text front more : List Char} {blocks others : List Written}
    (laidOut : LaidOut text front blocks) (behind : Layout others more)
    (ends : text = [] ∨ EndsLine text) : LaidOut (text ++ more) front (blocks ++ others) := by
  obtain ⟨rest, rfl, layout⟩ := laidOut.behind
  have endsBehind : rest = [] ∨ EndsLine rest := by
    by_cases filled : rest = []
    · exact .inl filled
    · have whole := ends.resolve_left (List.append_ne_nil_of_right_ne_nil front filled)
      exact .inr (whole.of_append filled)
  exact ⟨laidOut.unopened, rest ++ more, List.append_assoc _ _ _, layout.append behind endsBehind⟩

end PegText.Language.Directive
