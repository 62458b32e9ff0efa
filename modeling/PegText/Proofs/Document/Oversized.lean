import PegText.Proofs.Document.Reading
import PegText.Proofs.Interpreter
import PegText.Proofs.Language.Oversized

/-!
Integers that 64 bits do not hold, in documents: of all arguments of all directives the refusal
points at the first one that is too large, alone or behind a key.
-/

namespace PegText

open Language.Expression (cause?)
open Ruleset (Blames)

namespace Language.Directive

theorem integers_keyed (key : Slice) (capture : Capture) :
    (Capture.tagged "key_value" (.record [("key", .atom key), ("value", capture)])).integers =
      capture.integers := by
  simp [Capture.integers, Capture.integersOfEntries, Capture.integer?]

theorem Literal.Pictures.exists_argument {value : Literal} {capture : Capture}
    (pictures : value.Pictures capture) (fits : oversized? capture.integers = none) :
    ∃ argument, value.argument? = some argument := by
  cases pictures with
  | str => exact ⟨_, rfl⟩
  | @int digits slice _ sameText =>
      have small : ¬slice.Oversized := by
        simpa [Capture.integers, Capture.integer?, oversized?] using fits
      obtain ⟨number, known⟩ := number?_of_not_oversized sameText small
      exact ⟨.int number, by rw [Literal.argument?, known, Option.map_some]⟩

theorem Phrase.Pictures.exists_argument {phrase : Phrase} {capture : Capture}
    (pictures : phrase.Pictures capture) (fits : oversized? capture.integers = none) :
    ∃ argument, phrase.argument? = some argument := by
  cases pictures with
  | plain pictured => exact pictured.exists_argument fits
  | keyed _ pictured =>
      rw [integers_keyed] at fits
      obtain ⟨argument, meant⟩ := pictured.exists_argument fits
      exact ⟨_, by rw [Phrase.argument?, meant, Option.map_some]⟩
  | bare => exact ⟨_, rfl⟩

theorem exists_arguments {phrases : List Phrase} {captures : List Capture}
    (pictures : List.Forall₂ Phrase.Pictures phrases captures)
    (fits : oversized? (Capture.integersOfItems captures) = none) :
    ∃ arguments, arguments? phrases = some arguments := by
  induction pictures with
  | nil => exact ⟨[], rfl⟩
  | cons first _ ih =>
      rw [Capture.integersOfItems, oversized?_append, Option.or_eq_none_iff] at fits
      obtain ⟨argument, meant⟩ := first.exists_argument fits.1
      obtain ⟨arguments, meantBehind⟩ := ih fits.2
      exact ⟨argument :: arguments, by simp [arguments?, meant, meantBehind]⟩

section

variable {source : Source} {setting : Ruleset.Setting Part} {depth : Nat}

theorem Literal.Pictures.blames {value : Literal} {capture : Capture}
    (pictures : value.Pictures capture) (known : setting.source = some source) :
    Blames source "int" (oversized? capture.integers)
      (Part.ruleset.reduce setting depth (.ofCapture capture)) := by
  cases pictures with
  | str => exact .leaf rfl .done
  | @int digits slice numeral sameText =>
      have matched : intRule.shape.match? (.record [("int", (.atom slice : Tree Part))]) =
          some [("i", .atom slice)] := rfl
      have fifth : Ruleset.reduceNode setting Part.ruleset.rules (.record [("int", .atom slice)]) =
          Ruleset.reduceNode setting (intRule :: Part.ruleset.rules.drop 5)
            (.record [("int", .atom slice)]) := rfl
      apply Blames.leaf rfl
      rw [fifth]
      exact Expression.blames_of_readInteger rfl matched (build_int slice) numeral sameText known rfl

theorem Phrase.Pictures.blames {phrase : Phrase} {capture : Capture}
    (pictures : phrase.Pictures capture) (known : setting.source = some source)
    (room : depth + 3 < Ruleset.defaultMaxDepth) :
    Blames source "int" (oversized? capture.integers)
      (Part.ruleset.reduce setting depth (.ofCapture capture)) := by
  have whole (fits : oversized? capture.integers = none) :
      Blames source "int" none (Part.ruleset.reduce setting depth (.ofCapture capture)) := by
    obtain ⟨argument, meant⟩ := pictures.exists_argument fits
    have reduces := pictures.reduces setting room
    rw [meant] at reduces
    exact .of_ends reduces
  cases pictures with
  | plain pictured => exact pictured.blames known
  | bare => exact whole rfl
  | @keyed key slice value capture _ pictured =>
      rw [integers_keyed] at whole ⊢
      have keyBlames : Blames source "int" none
          (Part.ruleset.reduce setting (depth + 2) (.atom slice)) := .atom rfl
      have fields := keyBlames.entries_cons "key"
        ((pictured.blames known).entries_cons "value" .entries_nil)
      rw [Option.none_or, Option.or_none] at fields
      have pair := fields.record fun fits => (whole fits).of_first
      have entry := pair.entries_cons "key_value" .entries_nil
      rw [Option.or_none] at entry
      exact entry.record whole

theorem blames_arguments {phrases : List Phrase} {captures : List Capture}
    (pictures : List.Forall₂ Phrase.Pictures phrases captures)
    (known : setting.source = some source) (room : depth + 3 < Ruleset.defaultMaxDepth) :
    Blames source "int" (oversized? (Capture.integersOfItems captures))
      (Part.ruleset.reduceItems setting depth (Tree.ofItems captures)) := by
  induction pictures with
  | nil => exact .items_nil
  | cons first _ ih =>
      rw [Capture.integersOfItems, oversized?_append]
      exact (first.blames known room).items_cons ih

end

theorem integers_visibility (visibility : Visibility) (command result : Slice) :
    (visibility.capture command result).integers = [] := by
  rcases visibility with ⟨_ | _, _ | _⟩ <;> rfl

theorem integers_code (captures : List Capture) (name body : Slice) (visibility : Visibility)
    (command result : Slice) :
    (Capture.tagged "code"
      (.record
        [("arglist", .list captures), ("funcall", .atom name), ("stdin", .atom body),
         ("visibility", visibility.capture command result)])).integers =
      Capture.integersOfItems captures := by
  simp [Capture.integers, Capture.integersOfEntries, Capture.integer?, integers_visibility]

section

variable {source : Source} {setting : Ruleset.Setting Part}

theorem Shows.exists_directive {block : Written} {stop : Nat} {capture : Capture}
    (shows : Shows block stop capture) (fits : oversized? capture.integers = none) (span : Span) :
    ∃ directive, block.directive? span = some directive := by
  cases shows with
  | mk _ pictures =>
      rw [integers_code] at fits
      obtain ⟨arguments, meant⟩ := exists_arguments pictures fits
      exact ⟨_, by rw [Written.directive?, meant, Option.map_some]⟩

theorem Shows.blames {block : Written} {stop : Nat} {capture : Capture}
    (shows : Shows block stop capture) (known : setting.source = some source) :
    Blames source "int" (oversized? capture.integers)
      (Part.ruleset.reduce setting 1 (.ofCapture capture)) := by
  have whole (fits : oversized? capture.integers = none) :
      Blames source "int" none (Part.ruleset.reduce setting 1 (.ofCapture capture)) := by
    obtain ⟨start, reduces⟩ := shows.reduces setting
    obtain ⟨directive, meant⟩ := shows.exists_directive fits ⟨start, stop⟩
    rw [meant] at reduces
    exact .of_ends reduces
  obtain @⟨name, captures, start, command, result, _, pictures⟩ := shows
  rw [integers_code] at whole ⊢
  have argumentsBlame : Blames source "int" _
      (Part.ruleset.reduce setting 3 (.list (Tree.ofItems captures))) :=
    (blames_arguments pictures known (by decide)).list Part.reduceNode_list
  have nameBlames : Blames source "int" none (Part.ruleset.reduce setting 3 (.atom name)) :=
    .atom rfl
  have bodyBlames : Blames source "int" none
      (Part.ruleset.reduce setting 3 (.atom ⟨.ofList block.body, start, stop⟩)) := .atom rfl
  have visibilityBlames : Blames source "int" none
      (Part.ruleset.reduce setting 3 (.ofCapture (block.visibility.capture command result))) :=
    .of_ok ⟨_, Part.reduce_visibility block.visibility command result⟩
  have fields := argumentsBlame.entries_cons "arglist" (nameBlames.entries_cons "funcall"
    (bodyBlames.entries_cons "stdin" (visibilityBlames.entries_cons "visibility" .entries_nil)))
  simp only [Option.or_none] at fields
  have inside := fields.record fun fits => (whole fits).of_first
  have entry := inside.entries_cons "code" .entries_nil
  rw [Option.or_none] at entry
  exact entry.record whole

theorem ShowsAll.blames {start : Nat} {blocks : List Written} {captures : List Capture}
    (shows : ShowsAll start blocks captures) (known : setting.source = some source) :
    Blames source "int" (oversized? (Capture.integersOfItems captures))
      (Part.ruleset.reduceItems setting 1 (Tree.ofItems captures)) := by
  induction shows with
  | nil => exact .items_nil
  | cons first _ ih =>
      rw [Capture.integersOfItems, oversized?_append]
      exact (first.blames known).items_cons ih

end

/-! The integers of a document are captured in the order of the source. -/

theorem Phrase.Pictures.inSourceOrder {phrase : Phrase} {capture : Capture}
    (pictures : phrase.Pictures capture) : Capture.InSourceOrder capture.integers := by
  have literal {value : Literal} {capture : Capture} (pictured : value.Pictures capture) :
      Capture.InSourceOrder capture.integers := by
    cases pictured <;> simp [Capture.InSourceOrder, Capture.integers, Capture.integer?]
  cases pictures with
  | plain pictured => exact literal pictured
  | keyed _ pictured =>
      rw [integers_keyed]
      exact literal pictured
  | bare => exact .nil

theorem arguments_inSourceOrder {phrases : List Phrase} {captures : List Capture}
    (pictures : List.Forall₂ Phrase.Pictures phrases captures) :
    ∀ capture ∈ captures, Capture.InSourceOrder capture.integers := by
  induction pictures with
  | nil => exact List.forall_mem_nil _
  | cons first _ ih => exact List.forall_mem_cons.mpr ⟨first.inSourceOrder, ih⟩

theorem Shows.inSourceOrder {text : String} {block : Written} {stop : Nat} {capture : Capture}
    (shows : Shows block stop capture) (faithful : capture.Faithful text) :
    Capture.InSourceOrder capture.integers := by
  obtain @⟨name, captures, start, command, result, _, pictures⟩ := shows
  rw [integers_code]
  have within := faithful (.list captures) (.tagged (.record List.mem_cons_self .here))
  exact Capture.inSourceOrder_items within.2 (arguments_inSourceOrder pictures)

theorem ShowsAll.inSourceOrder {text : String} {start : Nat} {blocks : List Written}
    {captures : List Capture} (shows : ShowsAll start blocks captures)
    (faithful : ∀ capture ∈ captures, capture.Faithful text) :
    ∀ capture ∈ captures, Capture.InSourceOrder capture.integers := by
  induction shows with
  | nil => exact List.forall_mem_nil _
  | cons first _ ih =>
      obtain ⟨faithfulFirst, faithfulRest⟩ := List.forall_mem_cons.mp faithful
      exact List.forall_mem_cons.mpr ⟨first.inSourceOrder faithfulFirst, ih faithfulRest⟩

end Language.Directive

namespace Document

open Language.Directive (ShowsAll documentCapture)

section

variable {source : Source} {front : List Char} {captures : List Capture}

theorem integers_document :
    (documentCapture 0 front captures).integers = Capture.integersOfItems captures := by
  simp [documentCapture, Capture.integers, Capture.integersOfItems, Capture.integer?]

theorem blames_document {setting : Ruleset.Setting Part} {start : Nat}
    {blocks : List Language.Directive.Written} (shows : ShowsAll start blocks captures)
    (known : setting.source = some source) :
    Blames source "int" (oversized? (documentCapture 0 front captures).integers)
      (Part.ruleset.applyCapture setting (documentCapture 0 front captures)) := by
  let text : Slice := ⟨.ofList front, 0, 0 + String.utf8Len front⟩
  have textBlames : Blames source "int" none
      (Part.ruleset.reduce setting 1 (.ofCapture (.tagged "no_code" (.atom text)))) :=
    .of_ok ⟨_, Part.reduce_text text⟩
  have blames := (textBlames.items_cons (shows.blames known)).list Part.reduceNode_list
  rw [Option.none_or, ← @integers_document front] at blames
  exact blames

theorem shallow_of_reduces {β : Type} {answer : Except Diagnostic β} {expected : Option β}
    (reduces : Language.Directive.Reduces answer expected) (depth : Nat) :
    cause? answer ≠ some (.treeDepthLimit depth) := by
  cases reduces with
  | done => rintro ⟨⟩
  | malformed cause =>
      rw [cause?, cause]
      rintro ⟨⟩
  | tooDeep never => exact never.elim

theorem inSourceOrder_document {text : String} {start : Nat}
    {blocks : List Language.Directive.Written} (shows : ShowsAll start blocks captures)
    (faithful : (documentCapture 0 front captures).Faithful text) :
    Capture.InSourceOrder (documentCapture 0 front captures).integers := by
  have ahead := (List.pairwise_cons.mp (faithful _ .here).2).2
  have each (capture : Capture) (member : capture ∈ captures) : capture.Faithful text :=
    faithful.inside (.list (List.mem_cons_of_mem _ member) .here)
  rw [integers_document]
  exact Capture.inSourceOrder_items ahead (shows.inSourceOrder each)

end

theorem refusedAtFirst {source : Source} {capture : Capture}
    (parsed : Language.Directive.grammar.parseSource none source = .ok capture)
    (exceeds : ∃ slice, capture.HasInteger slice ∧ slice.Oversized) :
    RefusedAtFirst source capture (parseSource source) := by
  obtain ⟨output, stop, found, ended, rfl⟩ := Language.Directive.parseSource_eq_ok.mp parsed
  have faithful := found.faithful
  obtain ⟨front, blocks, rest, captures, -, -, -, shows, captured⟩ :=
    Language.Directive.document_spelled found ended
  rw [Cursor.start, Nat.zero_add] at shows
  rw [captured] at parsed exceeds faithful ⊢
  have blames : Blames source "int" _ (Part.ruleset.applyCapture ⟨some source, Part.display⟩
      (documentCapture 0 front captures)) := blames_document shows rfl
  have shallow := shallow_of_bind (shallow_of_reduces
    (reduces_document shows ⟨some source, Part.display⟩))
  have refused := refusedAtFirst_of_blames blames shallow (inSourceOrder_document shows faithful)
    faithful exceeds
  rw [parseSource_eq, parsed]
  exact (refused.bind _).map _

end Document

namespace Language.Expression

theorem maxNesting_eq : grammar.maxNesting = Grammar.defaultMaxNesting := by
  rw [grammar_eq]
  rfl

/-- What is parsed within a low limit does not meet the one on depth. -/
theorem shallow_of_low {source : Source} {limit : Nat} (low : limit ≤ Ruleset.defaultMaxDepth)
    (depth : Nat) : cause? (parseNested source limit) ≠ some (.treeDepthLimit depth) := by
  rcases @parseNested_within source limit low with ⟨expr, read, -⟩ | ⟨diagnostic, unread, blames⟩
  · rw [read]
    rintro ⟨⟩
  · rw [unread]
    intro same
    exact blames.tree depth (Option.some.inj same)

end Language.Expression

/-- Of all integers that 64 bits do not hold, however many there are and however deep they stand,
the first one in the source is refused and pointed at. In an expression this is so unless the
reduction meets its limit on depth, which it does not if the parse stays within the usual limit; in
a document it is always so. -/
theorem first_oversized_refused (source : Source) (capture : Capture)
    (exceeds : ∃ slice, capture.HasInteger slice ∧ slice.Oversized) :
    (∀ limit, Language.Expression.grammar.parseNested none source limit = .ok capture →
      (∀ depth,
        cause? (Language.Expression.parseNested source limit) ≠ some (.treeDepthLimit depth)) →
          RefusedAtFirst source capture (Language.Expression.parseNested source limit)) ∧
    (Language.Expression.grammar.parseSource none source = .ok capture →
      RefusedAtFirst source capture (Language.Expression.parseSource source)) ∧
    (Language.Directive.grammar.parseSource none source = .ok capture →
      RefusedAtFirst source capture (Document.parseSource source)) := by
  refine ⟨fun limit parsed shallow => ?_, fun parsed => ?_, fun parsed => ?_⟩
  · exact Language.Expression.refusedAtFirst parsed shallow exceeds
  · rw [Grammar.parseSource, Language.Expression.maxNesting_eq] at parsed
    exact Language.Expression.refusedAtFirst parsed
      (Language.Expression.shallow_of_low (by decide)) exceeds
  · exact Document.refusedAtFirst parsed exceeds

def largeSum : Source := .ofInput "f(1,99999999999999999999+9223372036854775808)"

def largeArguments : Source :=
  .ofInput ":::>> f(1, k:9223372036854775808)\n:::>> g(9223372036854775808)\n"

theorem exists_oversized_of_span {parse : Except Diagnostic Capture} {span : Span}
    (shown : parse.toOption.map (fun capture => (oversized? capture.integers).map Slice.span) =
      some (some span)) :
    ∃ capture, parse = .ok capture ∧ (oversized? capture.integers).map Slice.span = some span ∧
      ∃ slice, capture.HasInteger slice ∧ slice.Oversized := by
  cases parse with
  | error => cases shown
  | ok capture =>
      have found : (oversized? capture.integers).map Slice.span = some span :=
        Option.some.inj shown
      refine ⟨capture, rfl, found, isSome_oversized?.mp ?_⟩
      rw [← Option.isSome_map, found, Option.isSome_some]

theorem first_oversized_refused_nested :
    (∃ capture, Language.Expression.grammar.parseSource none largeSum = .ok capture ∧
      (oversized? capture.integers).map Slice.span = some ⟨4, 24⟩ ∧
      RefusedAtFirst largeSum capture
        (Language.Expression.parseNested largeSum Language.Expression.grammar.maxNesting) ∧
      RefusedAtFirst largeSum capture (Language.Expression.parseSource largeSum)) ∧
    ∃ capture, Language.Directive.grammar.parseSource none largeArguments = .ok capture ∧
      (oversized? capture.integers).map Slice.span = some ⟨13, 32⟩ ∧
      RefusedAtFirst largeArguments capture (Document.parseSource largeArguments) := by
  constructor
  · have shown : (Language.Expression.grammar.parseSource none largeSum).toOption.map
        (fun capture => (oversized? capture.integers).map Slice.span) = some (some ⟨4, 24⟩) := by
      rw [Language.Expression.grammar_eq]
      decide +kernel
    obtain ⟨capture, parsed, span, exceeds⟩ := exists_oversized_of_span shown
    have refused := first_oversized_refused largeSum capture exceeds
    have low : Language.Expression.grammar.maxNesting ≤ Ruleset.defaultMaxDepth := by
      rw [Language.Expression.maxNesting_eq]
      decide
    exact ⟨capture, parsed, span,
      refused.1 _ parsed (Language.Expression.shallow_of_low low), refused.2.1 parsed⟩
  · have shown : (Language.Directive.grammar.parseSource none largeArguments).toOption.map
        (fun capture => (oversized? capture.integers).map Slice.span) = some (some ⟨13, 32⟩) := by
      rw [Language.Directive.grammar_eq]
      decide +kernel
    obtain ⟨capture, parsed, span, exceeds⟩ := exists_oversized_of_span shown
    have refused := first_oversized_refused largeArguments capture exceeds
    exact ⟨capture, parsed, span, refused.2.2 parsed⟩

end PegText
