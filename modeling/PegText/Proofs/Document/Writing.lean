import PegText.Proofs.Document.Reading
import PegText.Proofs.Text.Joined

/-!
Writing documents: text in front and directives with their arguments in parentheses. Reading what
is written gives back the text and the directives.
-/

namespace PegText

open CharClass (isAsciiDigit isKeyChar isNameChar)
open String (utf8Len)

namespace Document

open PegText.Language (Blank)
open PegText.Language.Directive

/-- How texts and numbers are written: between quotes that the text does not contain, and in
decimal. -/
inductive WritesLiteral : Argument → String → Prop
  | str {text quote} : quote = '\'' ∨ quote = '"' → quote ∉ text.toList →
      WritesLiteral (.str text) (String.singleton quote ++ text ++ String.singleton quote)
  | int {number : Int64} : 0 ≤ number.toInt →
      WritesLiteral (.int number) (toString number.toInt)

def IsKey (word : String) : Prop := word ≠ "" ∧ ∀ c ∈ word.toList, isKeyChar c = true

inductive Writes : Argument → String → Prop
  | literal {argument text} : WritesLiteral argument text → Writes argument text
  | bare {word} : IsKey word → ¬(∀ c ∈ word.toList, isAsciiDigit c = true) →
      Writes (.bare word) word
  | keyValue {key argument text} : IsKey key → WritesLiteral argument text →
      Writes (.keyValue key argument) (key ++ ": " ++ text)

theorem WritesLiteral.spells {argument : Argument} {text : String}
    (writes : WritesLiteral argument text) :
    ∃ value : Literal, value.Spells text.toList ∧ value.argument? = some argument := by
  cases writes with
  | @str text quote isQuote absent =>
      refine ⟨.str text.toList, ?_, by rw [Literal.argument?, String.ofList_toList]⟩
      have spells := Literal.Spells.str isQuote absent
      simpa using spells
  | @int number natural =>
      refine ⟨.int (toString number.toInt).toList, .int (Integer.digits_toString natural), ?_⟩
      rw [Literal.argument?, Integer.number?_toString natural]
      rfl

theorem IsKey.key {word : String} (isKey : IsKey word) : Key word.toList :=
  ⟨fun empty => isKey.1 (String.toList_eq_nil_iff.mp empty), isKey.2⟩

theorem Writes.spells {argument : Argument} {text : String} (writes : Writes argument text) :
    ∃ phrase : Phrase, phrase.Spells text.toList ∧ phrase.argument? = some argument := by
  cases writes with
  | literal writes =>
      obtain ⟨value, spells, known⟩ := writes.spells
      exact ⟨.plain value, .plain spells, known⟩
  | @bare word isKey notDigits =>
      have bare : Bare text.toList := by
        constructor
        case filled => exact isKey.key.1
        case chars => exact fun c member => CharClass.isBareChar_of_isKeyChar (isKey.2 c member)
        case notNumeral => exact fun numeral => notDigits numeral.2
        case notKeyed =>
          intro key digit rest _ _ same
          have refused := isKey.2 ':' (by simp [same])
          simp [isKeyChar] at refused
      exact ⟨.bare text.toList, .bare bare, by rw [Phrase.argument?, String.ofList_toList]⟩
  | @keyValue key argument text isKey writes =>
      obtain ⟨value, spells, known⟩ := writes.spells
      refine ⟨.keyed key.toList value, ?_, by simp [Phrase.argument?, known]⟩
      have keyed := Phrase.Spells.keyed isKey.key inline_space spells
      simpa using keyed

theorem spells_more {arguments : List Argument} {texts : List String}
    (writes : List.Forall₂ Writes arguments texts) :
    ∃ phrases, SpellsMore phrases (texts.flatMap fun text => ", ".toList ++ text.toList) ∧
      arguments? phrases = some arguments := by
  induction writes with
  | nil => exact ⟨[], .nil, rfl⟩
  | cons first _ ih =>
      obtain ⟨phrase, spells, known⟩ := first.spells
      obtain ⟨phrases, spellsMore, knownMore⟩ := ih
      refine ⟨phrase :: phrases, ?_, by simp [arguments?, known, knownMore]⟩
      have more := SpellsMore.cons Blank.nil Blank.space spells spellsMore
      simpa using more

def listText (texts : List String) : String := "(" ++ ", ".intercalate texts ++ ")"

theorem spells_list {arguments : List Argument} {texts : List String}
    (writes : List.Forall₂ Writes arguments texts) :
    ∃ phrases, SpellsList phrases (listText texts).toList ∧
      arguments? phrases = some arguments := by
  cases writes with
  | nil => exact ⟨[], .empty Blank.nil, rfl⟩
  | cons first rest =>
      obtain ⟨phrase, spells, known⟩ := first.spells
      obtain ⟨phrases, spellsMore, knownMore⟩ := spells_more rest
      refine ⟨phrase :: phrases, ?_, by simp [arguments?, known, knownMore]⟩
      have list := SpellsList.cons Blank.nil spells spellsMore Blank.nil
      rw [listText, String.toList_append, String.toList_append, toList_intercalate_cons]
      simpa using list

structure Entry where
  visibility : Visibility
  name : String
  arguments : List Argument
  written : List String
  body : String
  nameFilled : name ≠ ""
  nameChars : ∀ c ∈ name.toList, isNameChar c = true
  writes : List.Forall₂ Writes arguments written
  unopened : Unopened body.toList

namespace Entry

def text (entry : Entry) : String :=
  marker ++ entry.visibility.signs ++ " " ++ entry.name ++ listText entry.written ++ "\n" ++
    entry.body

def directive (entry : Entry) (start : Nat) : Directive :=
  { name := entry.name
    arguments := entry.arguments
    visibility := entry.visibility
    body := entry.body
    span := ⟨start, start + entry.text.utf8ByteSize⟩ }

theorem exists_written (entry : Entry) :
    ∃ block : Written, block.text = entry.text.toList ∧ (∀ rest, block.Fits rest) ∧
      ∀ start, block.directive? ⟨start, start + utf8Len block.text⟩ =
        some (entry.directive start) := by
  obtain ⟨phrases, list, known⟩ := spells_list entry.writes
  let block : Written :=
    { visibility := entry.visibility
      blanks := [' ']
      name := entry.name.toList
      arguments := phrases
      list := (listText entry.written).toList
      gap := []
      newline := ['\n']
      body := entry.body.toList }
  have sameText : block.text = entry.text.toList := by
    simp [block, Written.text, Written.behindName, Entry.text, opening]
  refine ⟨block, sameText, fun rest => ?_, fun start => ?_⟩
  · constructor
    case blanks => simp [block, Inline, CharClass.isInline]
    case name =>
      exact ⟨fun empty => entry.nameFilled (String.toList_eq_nil_iff.mp empty), entry.nameChars⟩
    case nameEnds =>
      intro c first
      have paren : c = '(' := by
        simpa [block, Written.behindName, listText] using first.symm
      rw [paren]
      decide
    case arguments => exact .list list
    case gap => simp [block, Inline]
    case gapEnds => exact Language.Clear.cons (by decide)
    case newline => exact .unix
    case body => exact entry.unopened
  · rw [sameText, String.utf8Len_toList]
    simp [block, Written.directive?, known, directive]

end Entry

def write (front : String) (entries : List Entry) : String :=
  front ++ String.join (entries.map Entry.text)

def directivesFrom : Nat → List Entry → List Segment
  | _, [] => []
  | start, entry :: rest =>
      .directive (entry.directive start) :: directivesFrom (start + entry.text.utf8ByteSize) rest

theorem exists_layout (entries : List Entry) :
    ∃ blocks, Layout blocks (String.join (entries.map Entry.text)).toList ∧
      ∀ start, segments? start blocks = some (directivesFrom start entries) := by
  induction entries with
  | nil => exact ⟨[], .nil, fun _ => rfl⟩
  | cons entry rest ih =>
      obtain ⟨block, sameText, fits, known⟩ := entry.exists_written
      obtain ⟨blocks, layout, knownBehind⟩ := ih
      refine ⟨block :: blocks, ?_, fun start => ?_⟩
      · rw [List.map_cons, String.join_cons, String.toList_append, ← sameText]
        exact .cons (fits _) layout
      · rw [segments?, known, sameText, String.utf8Len_toList]
        simp [knownBehind, directivesFrom]

/-- What is written is read back: the text in front, if there is any, and the directives. -/
theorem parse_write {front : String} (entries : List Entry) (unopened : Unopened front.toList) :
    parse (write front entries) =
      .ok ⟨write front entries,
        (if front = "" then [] else [.text front ⟨0, front.utf8ByteSize⟩]) ++
          directivesFrom front.utf8ByteSize entries⟩ := by
  obtain ⟨blocks, layout, known⟩ := exists_layout entries
  have laidOut : LaidOut (write front entries).toList front.toList blocks :=
    ⟨unopened, _, String.toList_append, layout⟩
  have segments : segmentsOf? front.toList blocks =
      some ((if front = "" then [] else [.text front ⟨0, front.utf8ByteSize⟩]) ++
        directivesFrom front.utf8ByteSize entries) := by
    simp [segmentsOf?, known, inFront, String.utf8Len_toList]
  exact parse_eq_ok_iff.mpr ⟨front.toList, blocks, _, laidOut, segments, rfl⟩

def fourKinds : Entry where
  visibility := ⟨.visible, .hidden⟩
  name := "f"
  arguments := [.str "it's", .int 30, .bare "3b", .keyValue "12" (.str "")]
  written := ["\"it's\"", "30", "3b", "12: ''"]
  body := "é:::\n"
  nameFilled := by decide
  nameChars := List.all_eq_true.mp (by decide)
  writes :=
    .cons (.literal (.str (.inr rfl) (by decide)))
      (.cons (.literal (.int (by decide)))
        (.cons
          (.bare ⟨by decide, List.all_eq_true.mp (by decide)⟩
            fun digits => absurd (digits 'b' (by decide)) (by decide))
          (.cons
            (.keyValue ⟨by decide, List.all_eq_true.mp (by decide)⟩ (.str (.inl rfl) (by decide)))
            .nil)))
  unopened := by
    rintro ⟨_ | _, _ | _⟩ <;> rw [opening_cons] <;> decide

theorem parse_write_fourKinds :
    Unopened "a::".toList ∧
      parse "a:::::>- f(\"it's\", 30, 3b, 12: '')\né:::\n" =
        .ok
          { source := "a:::::>- f(\"it's\", 30, 3b, 12: '')\né:::\n"
            segments :=
              [.text "a::" ⟨0, 3⟩,
               .directive
                { name := "f"
                  arguments := [.str "it's", .int 30, .bare "3b", .keyValue "12" (.str "")]
                  visibility := ⟨.visible, .hidden⟩
                  body := "é:::\n"
                  span := ⟨3, 41⟩ }] } := by
  have unopened : Unopened "a::".toList := by
    rintro ⟨_ | _, _ | _⟩ <;> rw [opening_cons] <;> decide
  have written : write "a::" [fourKinds] =
      "a:::::>- f(\"it's\", 30, 3b, 12: '')\né:::\n" := by decide +kernel
  have read := parse_write [fourKinds] unopened
  rw [written] at read
  have directives : directivesFrom "a::".utf8ByteSize [fourKinds] =
      [.directive
        { name := "f"
          arguments := [.str "it's", .int 30, .bare "3b", .keyValue "12" (.str "")]
          visibility := ⟨.visible, .hidden⟩
          body := "é:::\n"
          span := ⟨3, 41⟩ }] := by decide +kernel
  rw [directives] at read
  exact ⟨unopened, read⟩

end Document

end PegText
