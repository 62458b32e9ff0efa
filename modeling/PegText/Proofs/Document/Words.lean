import PegText.Proofs.Document.Refusal

/-!
What becomes of a word that stands alone in the parentheses of a directive. The kinds of arguments
are tried in order. Behind a key the digits are taken as far as they go, and no other kind is tried
if the word goes on there: then it is no argument at all.
-/

namespace PegText.Language.Directive

open CharClass (isAsciiDigit isBareChar isKeyChar isNameChar)
open Node RuleTable

/-- The argument that a word should stand for: a number, a key with a number, or else the word. -/
inductive Stands : List Char → Phrase → Prop
  | int {digits} : Numeral digits → Stands digits (.plain (.int digits))
  | keyed {key digits} : Key key → Numeral digits →
      Stands (key ++ ':' :: digits) (.keyed key (.int digits))
  | bare {word} : ¬Numeral word →
      (∀ key digits, Key key → Numeral digits → word ≠ key ++ ':' :: digits) →
      Stands word (.bare word)

/-- The word begins with a key and a number, and goes on behind the digits. -/
def Overruns (word : List Char) : Prop :=
  ∃ key digits rest, word = key ++ ':' :: (digits ++ rest) ∧ Key key ∧ Numeral digits ∧
    rest ≠ [] ∧ Clear isAsciiDigit rest

variable {word : List Char} {phrase other : Phrase}

theorem not_numeral_keyed {key rest : List Char} : ¬Numeral (key ++ ':' :: rest) := by
  intro numeral
  have refused : isAsciiDigit ':' = false := by decide
  rw [numeral.2 ':' (List.mem_append_right key List.mem_cons_self)] at refused
  cases refused

theorem keyed_unique {key key' rest rest' : List Char} (isKey : Key key) (isKey' : Key key')
    (same : key ++ ':' :: rest = key' ++ ':' :: rest') : key = key' ∧ rest = rest' := by
  have clear {rest : List Char} : Clear isKeyChar (':' :: rest) := Clear.cons (by simp [isKeyChar])
  obtain ⟨sameKey, sameRest⟩ := run_unique isKey.2 clear isKey'.2 clear same
  exact ⟨sameKey, (List.cons.inj sameRest).2⟩

theorem exists_stands (word : List Char) : ∃ phrase, Stands word phrase := by
  by_cases numeral : Numeral word
  · exact ⟨_, .int numeral⟩
  by_cases keyed : ∃ key digits, Key key ∧ Numeral digits ∧ word = key ++ ':' :: digits
  · obtain ⟨key, digits, isKey, isNumeral, rfl⟩ := keyed
    exact ⟨_, .keyed isKey isNumeral⟩
  · exact ⟨_, .bare numeral fun key digits isKey isNumeral same =>
      keyed ⟨key, digits, isKey, isNumeral, same⟩⟩

theorem Stands.unique (stands : Stands word phrase) (same : Stands word other) :
    phrase = other := by
  generalize equal : word = shown at same
  cases stands with
  | int numeral =>
      cases same with
      | int => rw [equal]
      | keyed => exact (not_numeral_keyed (equal ▸ numeral)).elim
      | bare notNumeral => exact (notNumeral (equal ▸ numeral)).elim
  | keyed isKey numeral =>
      cases same with
      | int numeral' => exact (not_numeral_keyed (equal ▸ numeral')).elim
      | keyed isKey' =>
          obtain ⟨rfl, rfl⟩ := keyed_unique isKey isKey' equal
          rfl
      | bare _ notKeyed => exact (notKeyed _ _ isKey numeral equal.symm).elim
  | bare notNumeral notKeyed =>
      cases same with
      | int numeral => exact (notNumeral (equal ▸ numeral)).elim
      | keyed isKey numeral => exact (notKeyed _ _ isKey numeral equal).elim
      | bare => rw [equal]

theorem Overruns.stands (overruns : Overruns word) : Stands word (.bare word) := by
  obtain ⟨key, digits, rest, rfl, isKey, numeral, filled, clear⟩ := overruns
  refine .bare not_numeral_keyed fun key' digits' isKey' numeral' same => ?_
  obtain ⟨-, behind⟩ := keyed_unique isKey isKey' same
  rw [← List.append_nil digits'] at behind
  have ended : Clear isAsciiDigit [] := nofun
  exact filled (run_unique numeral.2 clear numeral'.2 ended behind).2

theorem Stands.spells (stands : Stands word phrase) (filled : word ≠ [])
    (chars : ∀ c ∈ word, isBareChar c = true) (stops : ¬Overruns word) : phrase.Spells word := by
  cases stands with
  | int numeral => exact .plain (.int numeral)
  | @keyed key digits isKey numeral =>
      have spells := Phrase.Spells.keyed isKey inline_nil (.int numeral)
      rwa [List.append_assoc] at spells
  | bare notNumeral notKeyed =>
      refine .bare ⟨filled, chars, notNumeral, ?_⟩
      rintro key digit rest isKey isDigit rfl
      obtain ⟨digits, behind, same, all, clear⟩ := exists_run isAsciiDigit (digit :: rest)
      have numeral : Numeral digits := ⟨run_ne_nil isDigit clear same, all⟩
      rw [same] at notKeyed stops
      by_cases ended : behind = []
      · subst ended
        exact notKeyed key digits isKey numeral (by rw [List.append_nil])
      · exact stops ⟨key, digits, behind, rfl, isKey, numeral, ended, clear⟩

theorem Phrase.Spells.list (spells : phrase.Spells word) :
    SpellsList [phrase] ('(' :: (word ++ [')'])) := by
  have list := SpellsList.cons Blank.nil spells .nil Blank.nil
  simpa only [List.append_nil, List.nil_append, List.cons_append] using list

theorem Overruns.matches_arg {cursor : Cursor} {tail : List Char} (overruns : Overruns word)
    (chars : ∀ c ∈ word, isBareChar c = true) (begins : cursor.rest = word ++ tail) :
    ∃ output next, rules.Matches (.rule (named "arg")) cursor output next ∧
      ¬Clear isBareChar next.rest := by
  obtain ⟨key, digits, rest, rfl, isKey, numeral, filled, clear⟩ := overruns
  have front : cursor.rest = (key ++ ':' :: digits) ++ (rest ++ tail) := by
    rw [begins]
    simp
  obtain ⟨next, passes, rest_eq⟩ := Cursor.exists_passes front
  obtain ⟨entries, found, -⟩ :=
    matches_keyed_int isKey numeral passes (rest_eq ▸ clear.append filled)
  refine ⟨.fields entries, next, ?_, ?_⟩
  · have noString : rules.Fails (.rule (named "string")) cursor := by
      cases key with
      | nil => exact (isKey.1 rfl).elim
      | cons c key =>
          obtain ⟨single, double⟩ := ne_quote_of_isBareChar (chars c List.mem_cons_self)
          exact values.fails_str (by rw [begins]; rfl) single double
    rw [matches_rule, body_arg]
    exact matches_choice_cons.mpr (.inr ⟨noString, matches_choice_cons.mpr (.inl found)⟩)
  · rw [rest_eq]
    exact not_clear_run filled fun c member => chars c (by simp [member])

theorem Overruns.not_list {phrases : List Phrase} {list : List Char} (overruns : Overruns word)
    (chars : ∀ c ∈ word, isBareChar c = true) (spells : SpellsList phrases list) :
    ¬list <+: '(' :: (word ++ [')']) := by
  rintro ⟨tail, same⟩
  have filled : word ≠ [] := by
    obtain ⟨key, digits, rest, rfl, -⟩ := overruns
    exact List.append_ne_nil_of_right_ne_nil key (List.cons_ne_nil _ _)
  have clear : Clear isWhiteSpace (word ++ [')']) :=
    Clear.of_run filled fun c member => CharClass.not_isWhiteSpace_of_isBareChar (chars c member)
  cases spells with
  | @empty blanks blank =>
      have behind : blanks ++ ')' :: tail = [] ++ (word ++ [')']) := by simpa using same
      obtain ⟨-, here⟩ := run_unique blank (Clear.graphic (by decide)) Blank.nil clear behind
      cases word with
      | nil => exact filled rfl
      | cons c word =>
          cases here
          exact absurd (chars ')' List.mem_cons_self) (by simp [isBareChar])
  | @cons blanks first text rest more spaces blank spellsFirst spellsMore blankBehind =>
      have behind : blanks ++ (text ++ (more ++ (spaces ++ ')' :: tail))) =
          [] ++ (word ++ [')']) := by simpa using same
      obtain ⟨-, here⟩ := run_unique blank (spellsFirst.clear _) Blank.nil clear behind
      let cursor : Cursor := ⟨0, word ++ [')']⟩
      obtain ⟨middle, passes, rest_eq⟩ :=
        Cursor.exists_passes (show cursor.rest = text ++ _ from here.symm)
      have follows : Follows middle.rest :=
        rest_eq ▸ spellsMore.follows ⟨spaces, tail, rfl, blankBehind⟩
      -- the first argument of the list ends where the rule stops, and there the word goes on
      obtain ⟨_, found, -⟩ := Language.Directive.matches_arg spellsFirst passes follows
      obtain ⟨_, next, found', goesOn⟩ := @Overruns.matches_arg _ cursor _ overruns chars rfl
      obtain ⟨-, rfl⟩ := found.unique found'
      exact goesOn follows.clear_bare

section

variable {word : String}

theorem toList_call :
    (":::>> f(" ++ word ++ ")").toList =
      opening ⟨.visible, .visible⟩ ++ ([' '] ++ (['f'] ++ ('(' :: (word.toList ++ [')'])))) := by
  rw [String.toList_append, String.toList_append, opening_cons]
  simp [Flag.sign]

def calling (phrase : Phrase) (word : List Char) : Written where
  visibility := ⟨.visible, .visible⟩
  blanks := [' ']
  name := ['f']
  arguments := [phrase]
  list := '(' :: (word ++ [')'])
  gap := []
  newline := []
  body := []

theorem name_f : ∀ c ∈ ['f'], isNameChar c = true :=
  List.all_eq_true.mp (by decide)

theorem fits_calling {word : List Char} (spells : phrase.Spells word) :
    (calling phrase word).Fits [] where
  blanks := inline_space
  name := ⟨List.cons_ne_nil _ _, name_f⟩
  nameEnds := Clear.cons (by decide)
  arguments := .list spells.list
  gap := inline_nil
  gapEnds := nofun
  newline := .none (by simp [calling]) (by simp [calling])
  body := unopened_nil

theorem laidOut_calling (spells : phrase.Spells word.toList) :
    LaidOut (":::>> f(" ++ word ++ ")").toList [] [calling phrase word.toList] := by
  refine ⟨unopened_nil, _, ?_, .cons (fits_calling spells) .nil⟩
  rw [toList_call]
  simp [calling, Written.text, Written.behindName]

def callCapture (name body command result : Slice) (entry : Capture) : Capture :=
  documentCapture 0 []
    [.tagged "code"
      (.record
        [("arglist", .list [entry]), ("funcall", .atom name), ("stdin", .atom body),
          ("visibility", (⟨.visible, .visible⟩ : Visibility).capture command result)])]

theorem parse_of_spells (spells : phrase.Spells word.toList) :
    ∃ name body command result entry,
      grammar.parse (":::>> f(" ++ word ++ ")") =
          .ok (callCapture name body command result entry) ∧
        name.text = "f" ∧ body.text = "" ∧ phrase.Pictures entry := by
  obtain ⟨captures, showsAll, parsed⟩ :=
    @parseSource_of_laidOut (.ofInput (":::>> f(" ++ word ++ ")")) _ _ (laidOut_calling spells)
  obtain _ | @⟨_, _, _, _, _, shows, none⟩ := showsAll
  cases none
  obtain @⟨name, captures, start, command, result, sameName, pictures⟩ := shows
  obtain _ | ⟨pictured, nothing⟩ := pictures
  cases nothing
  exact ⟨name, _, command, result, _, parsed, sameName, rfl, pictured⟩

theorem broken_call (overruns : Overruns word.toList)
    (chars : ∀ c ∈ word.toList, isBareChar c = true) :
    Broken ([' '] ++ (['f'] ++ ('(' :: (word.toList ++ [')'])))) :=
  .unlisted inline_space (List.cons_ne_nil _ _) name_f rfl fun _ _ spells =>
    overruns.not_list chars spells

theorem refused_of_overruns (overruns : Overruns word.toList)
    (chars : ∀ c ∈ word.toList, isBareChar c = true) :
    ∃ diagnostic expected found, grammar.parse (":::>> f(" ++ word ++ ")") = .error diagnostic ∧
      diagnostic.cause = .unexpectedInput expected found := by
  have stuck : Stuck (":::>> f(" ++ word ++ ")").toList :=
    ⟨[], _, _, .nil, toList_call ▸ .here, broken_call overruns chars⟩
  exact @parseSource_refused (.ofInput (":::>> f(" ++ word ++ ")"))
    fun _ _ laidOut => laidOut.not_stuck stuck

/-- A word without blanks, commas, parentheses and quotes is accepted as the argument that it should
stand for, unless it goes on behind a number that it begins with behind a key. -/
theorem parse_call (filled : word ≠ "") (chars : ∀ c ∈ word.toList, isBareChar c = true) :
    (Overruns word.toList →
      ∃ diagnostic expected found, grammar.parse (":::>> f(" ++ word ++ ")") = .error diagnostic ∧
        diagnostic.cause = .unexpectedInput expected found) ∧
      (¬Overruns word.toList →
        ∃ phrase name body command result entry,
          (∀ other, Stands word.toList other ↔ other = phrase) ∧
            grammar.parse (":::>> f(" ++ word ++ ")") =
                .ok (callCapture name body command result entry) ∧
              name.text = "f" ∧ body.text = "" ∧ phrase.Pictures entry) := by
  refine ⟨fun overruns => refused_of_overruns overruns chars, fun stops => ?_⟩
  obtain ⟨phrase, stands⟩ := exists_stands word.toList
  have filledList : word.toList ≠ [] := fun none => filled (String.toList_eq_nil_iff.mp none)
  obtain ⟨name, body, command, result, entry, parsed⟩ :=
    parse_of_spells (stands.spells filledList chars stops)
  refine ⟨phrase, name, body, command, result, entry, fun other => ?_, parsed⟩
  exact ⟨fun stands' => stands'.unique stands, fun same => same ▸ stands⟩

theorem parse_call_keyed :
    ("a:12" ≠ "" ∧ (∀ c ∈ "a:12".toList, isBareChar c = true) ∧ ¬Overruns "a:12".toList) ∧
      ∃ name body command result entry,
        grammar.parse (":::>> f(" ++ "a:12" ++ ")") =
            .ok (callCapture name body command result entry) ∧
          (Phrase.keyed ['a'] (.int ['1', '2'])).Pictures entry := by
  have chars : ∀ c ∈ "a:12".toList, isBareChar c = true := List.all_eq_true.mp (by decide)
  have isKey : Key ['a'] := ⟨List.cons_ne_nil _ _, List.all_eq_true.mp (by decide)⟩
  have numeral : Numeral ['1', '2'] := ⟨List.cons_ne_nil _ _, List.all_eq_true.mp (by decide)⟩
  have stands : Stands "a:12".toList (.keyed ['a'] (.int ['1', '2'])) := .keyed isKey numeral
  have stops : ¬Overruns "a:12".toList := fun overruns => nomatch overruns.stands.unique stands
  obtain ⟨phrase, name, body, command, result, entry, meant, parsed, -, -, pictures⟩ :=
    (parse_call (by decide) chars).2 stops
  cases (meant _).mp stands
  exact ⟨⟨by decide, chars, stops⟩, name, body, command, result, entry, parsed, pictures⟩

/-- The number in front of the `b` is taken for the value of a key, and then the list is broken. -/
theorem not_parse_call :
    "a:1b" ≠ "" ∧ (∀ c ∈ "a:1b".toList, isBareChar c = true) ∧
      Stands "a:1b".toList (.bare "a:1b".toList) ∧
        ¬∃ capture, grammar.parse (":::>> f(" ++ "a:1b" ++ ")") = .ok capture := by
  have chars : ∀ c ∈ "a:1b".toList, isBareChar c = true := List.all_eq_true.mp (by decide)
  have isKey : Key ['a'] := ⟨List.cons_ne_nil _ _, List.all_eq_true.mp (by decide)⟩
  have numeral : Numeral ['1'] := ⟨List.cons_ne_nil _ _, List.all_eq_true.mp (by decide)⟩
  have overruns : Overruns "a:1b".toList :=
    ⟨['a'], ['1'], ['b'], rfl, isKey, numeral, List.cons_ne_nil _ _, Clear.cons (by decide)⟩
  refine ⟨by decide, chars, overruns.stands, ?_⟩
  rintro ⟨capture, parsed⟩
  obtain ⟨diagnostic, _, _, refused, -⟩ := refused_of_overruns overruns chars
  rw [refused] at parsed
  cases parsed

end

end PegText.Language.Directive
