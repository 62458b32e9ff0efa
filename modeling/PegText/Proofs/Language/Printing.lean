import PegText.Proofs.Document.Writing
import PegText.Proofs.Language.Reading

/-!
Printing an expression and reading it again. A printed expression is spelled as the parser expects it
but for its strings: they are always put between single quotes, while the parser also takes double
quotes, between which a string may hold single ones.
-/

namespace PegText

namespace Expr

mutual

def texts : Expr → List String
  | int _ => []
  | str text => [text]
  | add left right => left.texts ++ right.texts
  | call _ arguments => textsOfAll arguments

def textsOfAll : List Expr → List String
  | [] => []
  | expr :: rest => expr.texts ++ textsOfAll rest

end

def Unquoted (texts : List String) : Prop := ∀ text ∈ texts, '\'' ∉ text.toList

theorem unquoted_append {texts more : List String} :
    Unquoted (texts ++ more) ↔ Unquoted texts ∧ Unquoted more :=
  List.forall_mem_append

end Expr

namespace Integer

theorem natural_of_number? {digits : List Char} {number : Int64}
    (known : number? digits = some number) : 0 ≤ number.toInt := by
  rw [number?] at known
  split at known
  next inRange =>
    cases known
    rw [Int64.toInt_maxValue] at inRange
    rw [Int64.toInt_ofInt_of_le (by omega) (by omega)]
    exact Int.natCast_nonneg _
  next => cases known

end Integer

namespace Language.Expression

open PegText.Expr (Unquoted unquoted_append)

theorem numeral_toString {digits : List Char} {number : Int64}
    (meant : Integer.number? digits = some number) :
    Numeral (toString number.toInt).toList ∧
      Integer.number? (toString number.toInt).toList = some number :=
  have natural := Integer.natural_of_number? meant
  ⟨Integer.digits_toString natural, Integer.number?_toString natural⟩

def printedMore (exprs : List Expr) : List Char :=
  (Expr.prettyAll exprs).flatMap fun text => ", ".toList ++ text.toList

theorem toList_prettyAll (first : Expr) (rest : List Expr) :
    (", ".intercalate (Expr.prettyAll (first :: rest))).toList =
      first.pretty.toList ++ printedMore rest := by
  rw [Expr.prettyAll, toList_intercalate_cons, printedMore]

mutual

theorem Spells.printed {phrase : Phrase} {text : List Char} {expr : Expr} (spells : Spells phrase text) (meant : phrase.expr? = some expr)
    (plain : Unquoted expr.texts) :
    ∃ other, Spells other expr.pretty.toList ∧ other.expr? = some expr := by
  cases spells with
  | int =>
      obtain ⟨number, known, rfl⟩ := Option.map_eq_some_iff.mp meant
      obtain ⟨numeral, back⟩ := numeral_toString known
      have spelled := Spells.int numeral Blank.nil
      rw [List.append_nil] at spelled
      refine ⟨_, spelled, ?_⟩
      rw [Phrase.expr?, back, Option.map_some]
  | @str _ content =>
      cases meant
      have outside : '\'' ∉ content := by
        simpa [Unquoted, Expr.texts] using plain
      have spelled := Spells.str (.inl rfl) outside Blank.nil
      exact ⟨.str content, by simpa [Expr.pretty] using spelled, rfl⟩
  | sum _ _ _ spellsRight =>
      obtain ⟨number, known, later⟩ := Option.bind_eq_some_iff.mp meant
      obtain ⟨right, meantRight, rfl⟩ := Option.map_eq_some_iff.mp later
      obtain ⟨numeral, back⟩ := numeral_toString known
      obtain ⟨other, spelledRight, same⟩ :=
        spellsRight.printed meantRight (unquoted_append.mp plain).2
      have spelled := Spells.sum numeral Blank.space Blank.space spelledRight
      refine ⟨.sum (toString number.toInt).toList other, ?_, ?_⟩
      · simpa [Expr.pretty] using spelled
      · rw [Phrase.expr?, back, same]
        rfl
  | @call name _ _ _ _ identifier _ spellsAll =>
      obtain ⟨exprs, meantAll, rfl⟩ := Option.map_eq_some_iff.mp meant
      obtain ⟨others, spelledAll, same⟩ := spellsAll.printed meantAll plain
      have spelled := Spells.call identifier Blank.nil spelledAll Blank.nil
      refine ⟨.call name others, ?_, ?_⟩
      · simpa [Expr.pretty] using spelled
      · rw [Phrase.expr?, same]
        rfl

theorem SpellsAll.printed {phrases : List Phrase} {text : List Char} {exprs : List Expr}
    (spells : SpellsAll phrases text)
    (meant : Phrase.exprs? phrases = some exprs) (plain : Unquoted (Expr.textsOfAll exprs)) :
    ∃ others, SpellsAll others (", ".intercalate (Expr.prettyAll exprs)).toList ∧
      Phrase.exprs? others = some exprs := by
  cases spells with
  | nil =>
      cases meant
      exact ⟨[], .nil, rfl⟩
  | cons spellsFirst spellsMore =>
      obtain ⟨first, meantFirst, later⟩ := Option.bind_eq_some_iff.mp meant
      obtain ⟨rest, meantRest, rfl⟩ := Option.map_eq_some_iff.mp later
      obtain ⟨plainFirst, plainRest⟩ := unquoted_append.mp plain
      obtain ⟨other, spelled, same⟩ := spellsFirst.printed meantFirst plainFirst
      obtain ⟨others, spelledMore, sameMore⟩ := spellsMore.printed meantRest plainRest
      rw [toList_prettyAll]
      exact ⟨_, .cons spelled spelledMore, by simp [Phrase.exprs?, same, sameMore]⟩

theorem SpellsMore.printed {phrases : List Phrase} {text : List Char} {exprs : List Expr}
    (spells : SpellsMore phrases text)
    (meant : Phrase.exprs? phrases = some exprs) (plain : Unquoted (Expr.textsOfAll exprs)) :
    ∃ others, SpellsMore others (printedMore exprs) ∧ Phrase.exprs? others = some exprs := by
  cases spells with
  | nil =>
      cases meant
      exact ⟨[], .nil, rfl⟩
  | cons _ spellsNext spellsMore =>
      obtain ⟨next, meantNext, later⟩ := Option.bind_eq_some_iff.mp meant
      obtain ⟨rest, meantRest, rfl⟩ := Option.map_eq_some_iff.mp later
      obtain ⟨plainNext, plainRest⟩ := unquoted_append.mp plain
      obtain ⟨other, spelled, same⟩ := spellsNext.printed meantNext plainNext
      obtain ⟨others, spelledMore, sameMore⟩ := spellsMore.printed meantRest plainRest
      exact ⟨_, .cons Blank.space spelled spelledMore, by simp [Phrase.exprs?, same, sameMore]⟩

end

/-! Of all spellings of an expression the printed one has the most single quotes. -/

def quotes (text : List Char) : Nat := text.count '\''

theorem quotes_append (text more : List Char) : quotes (text ++ more) = quotes text + quotes more :=
  List.count_append

theorem quotes_cons {c : Char} (other : c ≠ '\'') (text : List Char) :
    quotes (c :: text) = quotes text :=
  List.count_cons_of_ne other

theorem quotes_of_all {accepts : Char → Bool} {text : List Char}
    (all : ∀ c ∈ text, accepts c = true) (other : accepts '\'' = false) : quotes text = 0 := by
  refine List.count_eq_zero.mpr fun inside => ?_
  rw [all _ inside] at other
  cases other

theorem quotes_of_blank {blanks : List Char} (blank : Blank blanks) : quotes blanks = 0 :=
  quotes_of_all blank (by decide +kernel)

theorem quotes_of_numeral {digits : List Char} (numeral : Numeral digits) : quotes digits = 0 :=
  quotes_of_all numeral.2 (by decide)

/-- A text has no more single quotes than another one, and as many only if none of the strings holds
one. -/
structure Fewer (text printed : List Char) (texts : List String) : Prop where
  le : quotes text ≤ quotes printed
  unquoted : quotes text = quotes printed → Unquoted texts

namespace Fewer

variable {text printed more printedMore : List Char} {texts others : List String}

theorem of_none (none : quotes text = 0) : Fewer text printed [] where
  le := none ▸ Nat.zero_le _
  unquoted _ := List.forall_mem_nil _

theorem append (one : Fewer text printed texts) (two : Fewer more printedMore others) :
    Fewer (text ++ more) (printed ++ printedMore) (texts ++ others) where
  le := by
    rw [quotes_append, quotes_append]
    exact Nat.add_le_add one.le two.le
  unquoted same := by
    rw [quotes_append, quotes_append] at same
    have first := one.le
    have second := two.le
    exact unquoted_append.mpr ⟨one.unquoted (by omega), two.unquoted (by omega)⟩

end Fewer

theorem fewer_str {quote : Char} {content blanks : List Char} (isQuote : quote = '\'' ∨ quote = '"')
    (outside : quote ∉ content) (blank : Blank blanks) :
    Fewer (quote :: (content ++ [quote]) ++ blanks) ('\'' :: (content ++ ['\'']))
      [.ofList content] := by
  have behind := quotes_of_blank blank
  have inside : quotes ('\'' :: (content ++ ['\''])) = quotes content + 2 := by
    simp [quotes]
  rcases isQuote with rfl | rfl
  · have none : quotes content = 0 := List.count_eq_zero.mpr outside
    constructor
    · rw [quotes_append, behind, Nat.add_zero]
    · intro _
      simpa [Unquoted] using outside
  · have double : quotes ('"' :: (content ++ ['"']) ++ blanks) = quotes content := by
      rw [quotes_append, behind]
      simp [quotes]
    constructor
    · omega
    · intro same
      omega

mutual

/-- However an expression is spelled, its printed form has at least as many single quotes. -/
theorem Spells.fewer {phrase : Phrase} {text : List Char} {expr : Expr}
    (spells : Spells phrase text) (meant : phrase.expr? = some expr) :
    Fewer text expr.pretty.toList expr.texts := by
  cases spells with
  | int numeral blank =>
      obtain ⟨number, -, rfl⟩ := Option.map_eq_some_iff.mp meant
      refine .of_none ?_
      rw [quotes_append, quotes_of_numeral numeral, quotes_of_blank blank]
  | str isQuote outside blank =>
      cases meant
      simpa [Expr.pretty, Expr.texts] using fewer_str isQuote outside blank
  | @sum digits blanks more _ _ numeral blank moreBlank spellsRight =>
      obtain ⟨number, -, later⟩ := Option.bind_eq_some_iff.mp meant
      obtain ⟨right, meantRight, rfl⟩ := Option.map_eq_some_iff.mp later
      have front : Fewer (digits ++ blanks ++ ('+' :: more))
          (toString number.toInt ++ " + ").toList [] := by
        refine .of_none ?_
        rw [quotes_append, quotes_append, quotes_of_numeral numeral, quotes_of_blank blank,
          quotes_cons (by decide), quotes_of_blank moreBlank]
      have fewer := front.append (spellsRight.fewer meantRight)
      rwa [← String.toList_append] at fewer
  | @call name blanks _ _ more identifier blank spellsAll moreBlank =>
      obtain ⟨exprs, meantAll, rfl⟩ := Option.map_eq_some_iff.mp meant
      have front : Fewer (name ++ ('(' :: blanks)) (String.ofList name ++ "(").toList [] := by
        refine .of_none ?_
        rw [quotes_append, quotes_of_all identifier.2 (by decide), quotes_cons (by decide),
          quotes_of_blank blank]
      have behind : Fewer (')' :: more) ")".toList [] := by
        refine .of_none ?_
        rw [quotes_cons (by decide), quotes_of_blank moreBlank]
      have fewer := (front.append (spellsAll.fewer meantAll)).append behind
      rwa [← String.toList_append, ← String.toList_append, List.append_nil] at fewer

theorem SpellsAll.fewer {phrases : List Phrase} {text : List Char} {exprs : List Expr}
    (spells : SpellsAll phrases text) (meant : Phrase.exprs? phrases = some exprs) :
    Fewer text (", ".intercalate (Expr.prettyAll exprs)).toList (Expr.textsOfAll exprs) := by
  cases spells with
  | nil =>
      cases meant
      exact .of_none rfl
  | cons spellsFirst spellsMore =>
      obtain ⟨first, meantFirst, later⟩ := Option.bind_eq_some_iff.mp meant
      obtain ⟨rest, meantRest, rfl⟩ := Option.map_eq_some_iff.mp later
      rw [toList_prettyAll]
      exact (spellsFirst.fewer meantFirst).append (spellsMore.fewer meantRest)

theorem SpellsMore.fewer {phrases : List Phrase} {text : List Char} {exprs : List Expr}
    (spells : SpellsMore phrases text) (meant : Phrase.exprs? phrases = some exprs) :
    Fewer text (printedMore exprs) (Expr.textsOfAll exprs) := by
  cases spells with
  | nil =>
      cases meant
      exact .of_none rfl
  | @cons blanks _ _ _ _ blank spellsNext spellsMore =>
      obtain ⟨next, meantNext, later⟩ := Option.bind_eq_some_iff.mp meant
      obtain ⟨rest, meantRest, rfl⟩ := Option.map_eq_some_iff.mp later
      have comma : Fewer (',' :: blanks) ", ".toList [] := by
        refine .of_none ?_
        rw [quotes_cons (by decide), quotes_of_blank blank]
      have fewer := (comma.append (spellsNext.fewer meantNext)).append (spellsMore.fewer meantRest)
      exact fewer

end

variable {source : Source} {limit depth : Nat} {expr : Expr}

theorem reading_eq_ok_iff (free : ¬Limited limit depth (reading source limit depth)) :
    reading source limit depth = .ok (.value expr) ↔
      ∃ phrase, Spells phrase source.text.toList ∧ phrase.expr? = some expr := by
  have ends := reading_ends source limit depth
  generalize reading source limit depth = answer at free ends
  rcases ends with ⟨-, cause⟩ | ⟨unspelled, expected, found, cause⟩ | ⟨phrase, spells, ends⟩
  · exact (free (.inl cause)).elim
  · constructor
    · rintro rfl
      cases cause
    · rintro ⟨phrase, spells, -⟩
      exact (unspelled phrase spells).elim
  · have meant : (∃ other, Spells other source.text.toList ∧ other.expr? = some expr) ↔
        phrase.expr? = some expr := by
      constructor
      · rintro ⟨other, same, known⟩
        exact same.unique spells ▸ known
      · exact fun known => ⟨phrase, spells, known⟩
    rw [meant]
    generalize known : phrase.expr?.map Tree.value = expected at ends
    cases ends with
    | done =>
        obtain ⟨other, same, rfl⟩ := Option.map_eq_some_iff.mp known
        simp [same]
    | malformed => simp [Option.map_eq_none_iff.mp known]
    | tooDeep _ cause => exact (free (.inr (congrArg some cause))).elim

theorem not_limited (wide : (source.text.utf8ByteSize + 1) * rules.nodeCount ≤ limit)
    (deep : source.text.toList.length + 1 ≤ depth) :
    ¬Limited limit depth (reading source limit depth) := by
  rcases reading_ends source limit depth with ⟨few, -⟩ | ⟨-, _, _, cause⟩ | ⟨phrase, -, ends⟩
  · omega
  · simp [Limited, cause]
  · generalize reading source limit depth = answer at ends
    generalize phrase.expr?.map Tree.value = expected at ends
    cases ends with
    | done => simp [Limited, cause?]
    | malformed cause => simp [Limited, cause?, cause]
    | tooDeep high => omega

theorem parseNested_eq_ok_iff :
    parseNested source limit = .ok expr ↔
      reading source limit Ruleset.defaultMaxDepth = .ok (.value expr) := by
  rw [parseNested_eq]
  rcases reading source limit Ruleset.defaultMaxDepth with diagnostic | tree
  · simp [Except.bind]
  · cases tree <;> simp [Except.bind, Tree.value?]

/-- What has been read can be printed and read again exactly if none of its strings holds a single
quote. Limits that are wide for the length of the printed text are not met, and where none is met the
text is read as the same expression if no string holds one, and is not if some string does. -/
theorem printed_reads_back_iff (read : parseNested source limit = .ok expr) (name : String)
    (wide deep : Nat) :
    ((expr.pretty.utf8ByteSize + 1) * rules.nodeCount ≤ wide →
      expr.pretty.toList.length + 1 ≤ deep →
        ¬Limited wide deep (reading ⟨name, expr.pretty⟩ wide deep)) ∧
    (¬Limited wide deep (reading ⟨name, expr.pretty⟩ wide deep) →
      (reading ⟨name, expr.pretty⟩ wide deep = .ok (.value expr) ↔
        ∀ text ∈ expr.texts, '\'' ∉ text.toList)) := by
  refine ⟨@not_limited ⟨name, expr.pretty⟩ wide deep, fun free => ?_⟩
  have first := parseNested_eq_ok_iff.mp read
  have unlimited :
      ¬Limited limit Ruleset.defaultMaxDepth (reading source limit Ruleset.defaultMaxDepth) := by
    rw [first]
    simp [Limited, cause?]
  obtain ⟨phrase, spells, meant⟩ := (reading_eq_ok_iff unlimited).mp first
  rw [reading_eq_ok_iff free]
  constructor
  · -- the printed text spells the expression, and has as many quotes as itself
    rintro ⟨other, again, same⟩
    exact (again.fewer same).unquoted rfl
  · exact spells.printed meant

theorem printed_reads_back_call :
    parseNested (.ofInput "f( 2+3, 'a')") 2000 =
        .ok (.call "f" [.add (.int 2) (.int 3), .str "a"]) ∧
      reading ⟨"printed", "f(2 + 3, 'a')"⟩ 2000 20 =
        .ok (.value (.call "f" [.add (.int 2) (.int 3), .str "a"])) := by
  have read : parseNested (.ofInput "f( 2+3, 'a')") 2000 =
      .ok (.call "f" [.add (.int 2) (.int 3), .str "a"]) :=
    parseNested_eq_ok_iff.mpr ((reading_eq_ok_iff
      (not_limited (by decide +kernel) (by decide +kernel))).mpr ⟨_, spells_call, rfl⟩)
  have ⟨free, back⟩ := printed_reads_back_iff read "printed" 2000 20
  have plain : ∀ text ∈ ["a"], '\'' ∉ text.toList := by decide
  exact ⟨read, (back (free (by decide +kernel) (by decide +kernel))).mpr plain⟩

/-- A string that is read between double quotes and printed between single ones, where it ends at the
first of its own. -/
theorem printed_apostrophe :
    parseNested (.ofInput "\"it's\"") 2000 = .ok (.str "it's") ∧
      (Expr.str "it's").pretty = "'it's'" ∧
        ∃ diagnostic, parseNested (.ofInput "'it's'") 2000 = .error diagnostic ∧
          diagnostic.cause = .unexpectedInput "one of \\s, end of input" "'s'" := by
  have spells : Spells (.str "it's".toList) "\"it's\"".toList :=
    Spells.str (.inr rfl) (by decide) Blank.nil
  have read : parseNested (.ofInput "\"it's\"") 2000 = .ok (.str "it's") :=
    parseNested_eq_ok_iff.mpr ((reading_eq_ok_iff
      (not_limited (by decide +kernel) (by decide +kernel))).mpr ⟨_, spells, rfl⟩)
  have refused : cause? (parseNested (.ofInput "'it's'") 2000) =
      some (.unexpectedInput "one of \\s, end of input" "'s'") := by
    rw [parseNested, grammar_eq]
    decide +kernel
  refine ⟨read, rfl, ?_⟩
  cases ended : parseNested (.ofInput "'it's'") 2000 with
  | ok expr =>
      rw [ended] at refused
      cases refused
  | error diagnostic =>
      rw [ended] at refused
      exact ⟨diagnostic, rfl, Option.some.inj refused⟩

end Language.Expression

end PegText
