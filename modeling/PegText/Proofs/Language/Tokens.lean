import PegText.Proofs.CharClass.Classes
import PegText.Proofs.Parse.Scan

/-!
The tokens that several languages share: what text in quotes and digits match.
-/

namespace PegText.Language

def Blank (text : List Char) : Prop := ∀ c ∈ text, isWhiteSpace c = true

def Numeral (text : List Char) : Prop := text ≠ [] ∧ ∀ c ∈ text, CharClass.isAsciiDigit c = true

def Clear (accepts : Char → Bool) (rest : List Char) : Prop :=
  ∀ c, rest.head? = some c → accepts c = false

namespace Clear

variable {accepts larger : Char → Bool} {text run rest : List Char}

theorem nil : Clear accepts [] := by
  intro c first
  cases first

theorem append (clear : Clear accepts text) (filled : text ≠ []) : Clear accepts (text ++ rest) := by
  cases text with
  | nil => exact (filled rfl).elim
  | cons c text => exact clear

theorem cons {c : Char} (refused : accepts c = false) : Clear accepts (c :: rest) := by
  intro first same
  cases same
  exact refused

theorem graphic {c : Char} (isGraphic : CharClass.isGraphic c = true) :
    Clear isWhiteSpace (c :: rest) :=
  cons (CharClass.not_isWhiteSpace_of_isGraphic isGraphic)

theorem behind_run (refused : ∀ c ∈ run, accepts c = false) (clear : Clear accepts rest) :
    Clear accepts (run ++ rest) := by
  cases run with
  | nil => exact clear
  | cons c run => exact cons (refused c List.mem_cons_self)

theorem of_run (filled : run ≠ []) (refused : ∀ c ∈ run, accepts c = false) :
    Clear accepts (run ++ rest) := by
  cases run with
  | nil => exact (filled rfl).elim
  | cons c run => exact cons (refused c List.mem_cons_self)

theorem mono (within : ∀ c, accepts c = true → larger c = true) (clear : Clear larger rest) :
    Clear accepts rest := by
  intro c first
  cases accepted : accepts c with
  | false => rfl
  | true =>
      have refused := clear c first
      rw [within c accepted] at refused
      cases refused

end Clear

theorem Blank.nil : Blank [] := List.forall_mem_nil _

theorem Blank.append {front back : List Char} (blankFront : Blank front) (blankBack : Blank back) :
    Blank (front ++ back) :=
  List.forall_mem_append.mpr ⟨blankFront, blankBack⟩

theorem Blank.space : Blank [' '] := by
  simp only [Blank, List.mem_singleton, forall_eq]
  exact CharClass.isWhiteSpace_of_ascii (by decide)

theorem Blank.eq_nil {blanks rest : List Char} (blank : Blank blanks)
    (clear : Clear isWhiteSpace (blanks ++ rest)) : blanks = [] := by
  cases blanks with
  | nil => rfl
  | cons c blanks =>
      have space := blank c List.mem_cons_self
      rw [clear c rfl] at space
      cases space

theorem Numeral.head {digits rest : List Char} (numeral : Numeral digits) :
    ∃ c, (digits ++ rest).head? = some c ∧ CharClass.isAsciiDigit c = true := by
  obtain ⟨filled, all⟩ := numeral
  cases digits with
  | nil => exact (filled rfl).elim
  | cons c digits => exact ⟨c, rfl, all c List.mem_cons_self⟩

section

variable {accepts : Char → Bool} {front back run rest : List Char}

theorem run_ne_nil {c : Char} (accepted : accepts c = true) (clear : Clear accepts rest)
    (same : c :: back = run ++ rest) : run ≠ [] := by
  rintro rfl
  have refused := clear c (by rw [← List.nil_append rest, ← same]; rfl)
  rw [accepted] at refused
  cases refused

theorem not_clear_run (filled : run ≠ []) (all : ∀ c ∈ run, accepts c = true) :
    ¬Clear accepts (run ++ rest) := by
  intro clear
  cases run with
  | nil => exact filled rfl
  | cons c run => exact run_ne_nil (all c List.mem_cons_self) clear (List.nil_append _).symm rfl

/-- Characters of a set belong to the run that they begin. -/
theorem prefix_of_run (all : ∀ c ∈ front, accepts c = true) (clear : Clear accepts rest)
    (same : front ++ back = run ++ rest) : front <+: run := by
  induction front generalizing run with
  | nil => exact List.nil_prefix
  | cons c front ih =>
      obtain ⟨accepted, others⟩ := List.forall_mem_cons.mp all
      cases run with
      | nil => exact (run_ne_nil accepted clear same rfl).elim
      | cons d run =>
          obtain ⟨rfl, behind⟩ := List.cons.inj same
          exact List.cons_prefix_cons.mpr ⟨rfl, ih others behind⟩

theorem run_unique (allFront : ∀ c ∈ front, accepts c = true) (clearBack : Clear accepts back)
    (allRun : ∀ c ∈ run, accepts c = true) (clearRest : Clear accepts rest)
    (same : front ++ back = run ++ rest) : front = run ∧ back = rest := by
  have one := prefix_of_run allFront clearRest same
  have two := prefix_of_run allRun clearBack same.symm
  have equal := one.eq_of_length (Nat.le_antisymm one.length_le two.length_le)
  subst equal
  exact ⟨rfl, List.append_cancel_left same⟩

end

variable {size : Nat} {rules : RuleTable size} {facts : FactTable size} {cursor next : Cursor}
  {output : Output}

open Node RuleTable

def quotedNode (quote : Char) : Node size :=
  sequence
    [char quote, capture "string" (repetition (sequence [absent (char quote), any]) 0 none false),
      char quote]

def digitsNode : Node size :=
  capture "int" (repetition (charClass "[0-9]" (CharClass.accepted "[0-9]")) 1 none false)

theorem text_sliceTo {passed : List Char} (passes : cursor.Passes passed next) :
    (cursor.sliceTo next).text = .ofList passed := by
  rw [passes.sliceTo]

theorem quoted_matches {quote : Char}
    (found : rules.Matches (quotedNode quote) cursor output next) :
    ∃ (content : List Char) (slice : Slice), quote ∉ content ∧
      cursor.Passes (quote :: (content ++ [quote])) next ∧ slice.text = .ofList content ∧
        output = .fields [("string", .atom slice)] := by
  obtain ⟨outputs, inTurn, merged⟩ := found.of_sequence
  obtain ⟨_, opened, _, openFound, behindOpen, rfl⟩ := inTurn.of_cons
  obtain ⟨_, closing, _, contentFound, behindContent, rfl⟩ := behindOpen.of_cons
  obtain ⟨_, closed, _, closeFound, behindClose, rfl⟩ := behindContent.of_cons
  obtain ⟨rfl, rfl⟩ := behindClose.of_nil
  obtain ⟨openPasses, rfl⟩ := matches_char.mp openFound
  obtain ⟨closePasses, rfl⟩ := matches_char.mp closeFound
  obtain ⟨_, runFound, rfl⟩ := contentFound.of_capture
  obtain ⟨content, taken, -, rfl⟩ := (readsOne_except quote).matches_run.mp runFound
  cases merged
  refine ⟨content, opened.sliceTo closing, ?_, ?_, text_sliceTo taken.passes, rfl⟩
  · intro inside
    simpa using taken.all quote inside
  · exact openPasses.trans (taken.passes.trans closePasses)

theorem matches_quoted {quote : Char} {content : List Char} (outside : quote ∉ content)
    (passes : cursor.Passes (quote :: (content ++ [quote])) next) :
    ∃ slice : Slice, slice.text = .ofList content ∧
      rules.Matches (quotedNode quote) cursor (.fields [("string", .atom slice)]) next := by
  obtain ⟨opened, openPasses, behindOpen⟩ := Cursor.passes_cons.mp passes
  obtain ⟨closing, contentPasses, closePasses⟩ := Cursor.passes_append.mp behindOpen
  have taken : opened.Takes (· != quote) content closing := by
    refine ⟨contentPasses, fun c inside => ?_, fun c first => ?_⟩
    · rw [bne_iff_ne]
      exact fun same => outside (same ▸ inside)
    · rw [closePasses.head?] at first
      simpa using (Option.some.inj first).symm
  have run : rules.Matches (repetition (sequence [absent (char quote), any]) 0 none false) opened
      (.text (opened.sliceTo closing)) closing :=
    (readsOne_except quote).matches_run.mpr ⟨content, taken, Nat.zero_le _, rfl⟩
  refine ⟨opened.sliceTo closing, text_sliceTo contentPasses, ?_⟩
  exact .sequence
    (.partsCons (.char openPasses)
      (.partsCons (.capture run) (.partsCons (.char closePasses) .partsNil)))
    rfl

theorem fails_quoted_of_head {quote : Char} (different : cursor.rest.head? ≠ some quote) :
    rules.Fails (quotedNode quote) cursor :=
  fails_sequence_cons.mpr (.inl (fails_char.mpr different))

def stringNode : Node size := choice [quotedNode '\'', quotedNode '"']

section

variable {first second : Char}

theorem string_matches
    (found : rules.Matches (choice [quotedNode first, quotedNode second]) cursor output next) :
    ∃ (quote : Char) (content : List Char) (slice : Slice), (quote = first ∨ quote = second) ∧
      quote ∉ content ∧ cursor.Passes (quote :: (content ++ [quote])) next ∧
        slice.text = .ofList content ∧ output = .fields [("string", .atom slice)] := by
  obtain ⟨branch, member, branchFound⟩ := found.of_choice
  have known : ∃ quote, (quote = first ∨ quote = second) ∧ branch = quotedNode quote := by
    simp only [List.mem_cons, List.not_mem_nil, or_false] at member
    rcases member with rfl | rfl
    · exact ⟨_, .inl rfl, rfl⟩
    · exact ⟨_, .inr rfl, rfl⟩
  obtain ⟨quote, isQuote, rfl⟩ := known
  obtain ⟨content, slice, outside, passes, sameText, rfl⟩ := quoted_matches branchFound
  exact ⟨quote, content, slice, isQuote, outside, passes, sameText, rfl⟩

theorem matches_string (different : first ≠ second) {quote : Char} {content : List Char}
    (isQuote : quote = first ∨ quote = second) (outside : quote ∉ content)
    (passes : cursor.Passes (quote :: (content ++ [quote])) next) :
    ∃ slice : Slice, slice.text = .ofList content ∧
      rules.Matches (choice [quotedNode first, quotedNode second]) cursor
        (.fields [("string", .atom slice)]) next := by
  obtain ⟨slice, sameText, quoted⟩ : ∃ slice : Slice, slice.text = .ofList content ∧
      rules.Matches (quotedNode quote) cursor (.fields [("string", .atom slice)]) next :=
    matches_quoted outside passes
  refine ⟨slice, sameText, ?_⟩
  rcases isQuote with rfl | rfl
  · exact matches_choice_cons.mpr (.inl quoted)
  · have failed : rules.Fails (quotedNode first) cursor := by
      refine fails_quoted_of_head ?_
      rw [passes.rest]
      exact fun same => different (Option.some.inj same).symm
    exact matches_choice_cons.mpr (.inr ⟨failed, matches_choice_cons.mpr (.inl quoted)⟩)

theorem fails_string (notFirst : cursor.rest.head? ≠ some first)
    (notSecond : cursor.rest.head? ≠ some second) :
    rules.Fails (choice [quotedNode first, quotedNode second]) cursor := by
  rw [fails_choice]
  simp only [List.forall_mem_cons, List.not_mem_nil, false_imp_iff, implies_true, and_true]
  exact ⟨fails_quoted_of_head notFirst, fails_quoted_of_head notSecond⟩

end

theorem matches_digits :
    rules.Matches digitsNode cursor output next ↔
      ∃ run, cursor.Takes CharClass.isAsciiDigit run next ∧ run ≠ [] ∧
        output = .fields [("int", .atom (cursor.sliceTo next))] := by
  rw [digitsNode, CharClass.accepted_digit]
  exact (readsOne_charClass _ _).repetition.matches_capture

theorem fails_digits :
    rules.Fails digitsNode cursor ↔
      ∀ c, cursor.rest.head? = some c → CharClass.isAsciiDigit c = false := by
  rw [digitsNode, fails_capture, (readsOne_charClass _ _).fails_run, CharClass.accepted_digit]

end PegText.Language
