import PegText.Document.Reading
import PegText.Proofs.Language.Blocks
import PegText.Proofs.Tree.Reduction
import PegText.Proofs.Tree.Shape

/-!
What the captures of a document are reduced to: the text in front becomes a text segment, and a
block, if it becomes a segment at all, a directive with the flags and the body that were captured.
-/

namespace PegText

theorem Builder.bind_ok {α β γ : Type} {first : Builder α β} {next : β → Builder α γ}
    {bindings : Bindings α} {result : γ} (ran : ((first >>= next).run bindings).1 = .ok result) :
    ∃ value between, first.run bindings = (.ok value, between) ∧
      ((next value).run between).1 = .ok result := by
  have unfolded : (first >>= next).run bindings =
      ExceptT.bindCont next (first.run bindings).1 (first.run bindings).2 := rfl
  rw [unfolded] at ran
  rcases started : first.run bindings with ⟨outcome, between⟩
  rw [started] at ran
  cases outcome with
  | error error => cases ran
  | ok value => exact ⟨value, between, rfl, ran⟩

namespace Shape

variable {α : Type} [BEq α]

theorem bindFields?_of_record {fields : List (String × Shape)} {entries : List (String × Tree α)}
    {bindings result : Bindings α}
    (matched : (record fields).bind? (.record entries) bindings = some result) :
    bindFields? fields entries bindings = some result := by
  obtain ⟨_, same, -, inside⟩ := bind?_record.mp matched
  cases same
  exact inside

theorem bindFields?_cons {name : String} {shape : Shape} {rest : List (String × Shape)}
    {entries : List (String × Tree α)} {bindings result : Bindings α} {tree : Tree α}
    (found : Entries.lookup name entries = some tree)
    (matched : bindFields? ((name, shape) :: rest) entries bindings = some result) :
    ∃ between, shape.bind? tree bindings = some between ∧
      bindFields? rest entries between = some result := by
  obtain ⟨_, between, found', bound, later⟩ := bindFields?_cons_iff.mp matched
  cases found.symm.trans found'
  exact ⟨between, bound, later⟩

theorem eq_insert_of_bind? {name : String} {tree : Tree α} {bindings result : Bindings α}
    (fresh : Entries.lookup name bindings = none)
    (bound : bindings.bind? name tree = some result) :
    result = Entries.insert name tree bindings := by
  rw [Bindings.bind?, fresh] at bound
  exact (Option.some.inj bound).symm

theorem eq_insert_of_simple {name : String} {tree : Tree α} {bindings result : Bindings α}
    (bound : (simple name).bind? tree bindings = some result)
    (fresh : Entries.lookup name bindings = none) : result = Entries.insert name tree bindings :=
  eq_insert_of_bind? fresh (bind?_simple.mp bound).2

theorem eq_insert_of_sequence {name : String} {tree : Tree α} {bindings result : Bindings α}
    (bound : (sequence name).bind? tree bindings = some result)
    (fresh : Entries.lookup name bindings = none) : result = Entries.insert name tree bindings :=
  eq_insert_of_bind? fresh (bind?_sequence.mp bound).2

end Shape

section

variable {ε α β γ : Type} {first : Except ε α}

theorem exists_of_bind {next : α → Except ε β} {result : β}
    (joined : first.bind next = .ok result) :
    ∃ value, first = .ok value ∧ next value = .ok result := by
  cases first with
  | error => cases joined
  | ok value => exact ⟨value, rfl, joined⟩

theorem exists_of_bind_map {later : Except ε β} {join : α → β → γ} {result : γ}
    (joined : (first.bind fun value => later.map (join value)) = .ok result) :
    ∃ value more, first = .ok value ∧ later = .ok more ∧ result = join value more := by
  obtain ⟨value, here, behind⟩ := exists_of_bind joined
  cases later with
  | error => cases behind
  | ok more =>
      cases behind
      exact ⟨value, more, here, rfl, rfl⟩

end

namespace Ruleset

variable {α : Type} [BEq α] {ruleset : Ruleset α} {setting : Setting α} {depth : Nat}

theorem lt_of_reduce {tree result : Tree α}
    (reduced : ruleset.reduce setting depth tree = .ok result) : depth < ruleset.maxDepth := by
  by_contra beyond
  cases tree with
  | atom | value | record | list =>
      rw [reduce, if_pos (Nat.not_lt.mp beyond)] at reduced
      cases reduced

theorem reduce_record {entries : List (String × Tree α)} {tree : Tree α}
    (reduced : ruleset.reduce setting depth (.record entries) = .ok tree) :
    ∃ inside, ruleset.reduceEntries setting (depth + 1) entries = .ok inside ∧
      reduceNode setting ruleset.rules (.record inside) = .ok tree := by
  rw [reduce_record_eq_bind (lt_of_reduce reduced)] at reduced
  exact exists_of_bind reduced

theorem reduce_list {items : List (Tree α)} {tree : Tree α}
    (reduced : ruleset.reduce setting depth (.list items) = .ok tree) :
    ∃ inside, ruleset.reduceItems setting (depth + 1) items = .ok inside ∧
      reduceNode setting ruleset.rules (.list inside) = .ok tree := by
  rw [reduce_list_eq_bind (lt_of_reduce reduced)] at reduced
  exact exists_of_bind reduced

theorem reduceEntries_cons {name : String} {tree : Tree α} {rest result : List (String × Tree α)}
    (reduced : ruleset.reduceEntries setting depth ((name, tree) :: rest) = .ok result) :
    ∃ first later, ruleset.reduce setting depth tree = .ok first ∧
      ruleset.reduceEntries setting depth rest = .ok later ∧ result = (name, first) :: later := by
  rw [reduceEntries_eq_bind] at reduced
  exact exists_of_bind_map reduced

theorem reduceItems_cons {tree : Tree α} {rest result : List (Tree α)}
    (reduced : ruleset.reduceItems setting depth (tree :: rest) = .ok result) :
    ∃ first later, ruleset.reduce setting depth tree = .ok first ∧
      ruleset.reduceItems setting depth rest = .ok later ∧ result = first :: later := by
  rw [reduceItems_eq_bind] at reduced
  exact exists_of_bind_map reduced

end Ruleset

namespace Part

variable {setting : Ruleset.Setting Part}

theorem reduceNode_list (items : List (Tree Part)) :
    Ruleset.reduceNode setting ruleset.rules (.list items) = .ok (.list items) :=
  rfl

theorem reduce_text (slice : Slice) :
    ruleset.reduce setting 1 (.ofCapture (.tagged "no_code" (.atom slice))) =
      .ok (.value (.segment (.text slice.text slice.span))) := by
  rfl

theorem reduce_visibility (visibility : Visibility) (command result : Slice) :
    ruleset.reduce setting 3 (.ofCapture (visibility.capture command result)) =
      .ok (.value (.visibility visibility)) := by
  rcases visibility with ⟨_ | _, _ | _⟩ <;> rfl

def codeRule : TreeRule Part := ruleset.rules[8]

theorem reduceNode_code (inner : Tree Part) :
    Ruleset.reduceNode setting ruleset.rules (.record [("code", inner)]) =
      Ruleset.reduceNode setting [codeRule] (.record [("code", inner)]) :=
  rfl

theorem reduceNode_block (arguments name body visibility : Tree Part) :
    Ruleset.reduceNode setting ruleset.rules
        (.record [("arglist", arguments), ("funcall", name), ("stdin", body),
          ("visibility", visibility)]) =
      .ok (.record [("arglist", arguments), ("funcall", name), ("stdin", body),
          ("visibility", visibility)]) :=
  rfl

theorem match_code {arguments name body visibility : Tree Part} {bindings : Bindings Part}
    (matched : codeRule.shape.match?
      (.record [("code", .record [("arglist", arguments), ("funcall", name), ("stdin", body),
        ("visibility", visibility)])]) = some bindings) :
    bindings =
      [("args", arguments), ("body", body), ("name", name), ("visibility", visibility)] := by
  obtain ⟨_, blockBound, ended⟩ :=
    Shape.bindFields?_cons rfl (Shape.bindFields?_of_record matched)
  cases ended
  obtain ⟨_, visibilityBound, behindVisibility⟩ :=
    Shape.bindFields?_cons rfl (Shape.bindFields?_of_record blockBound)
  obtain ⟨_, nameBound, behindName⟩ := Shape.bindFields?_cons rfl behindVisibility
  obtain ⟨_, argumentsBound, behindArguments⟩ := Shape.bindFields?_cons rfl behindName
  obtain ⟨_, bodyBound, ended⟩ := Shape.bindFields?_cons rfl behindArguments
  cases ended
  have first := Shape.eq_insert_of_simple visibilityBound rfl
  rw [Entries.insert_nil] at first
  subst first
  have second := Shape.eq_insert_of_simple nameBound rfl
  rw [Entries.insert_of_lt _ _ _ (by decide)] at second
  subst second
  have third := Shape.eq_insert_of_sequence argumentsBound rfl
  rw [Entries.insert_of_lt _ _ _ (by decide)] at third
  subst third
  have fourth := Shape.eq_insert_of_simple bodyBound rfl
  rw [Entries.insert_of_gt _ _ _ (by decide), Entries.insert_of_lt _ _ _ (by decide)] at fourth
  exact fourth

theorem build_code {arguments name : Tree Part} {body : Slice} {visibility : Visibility}
    {tree : Tree Part}
    (built : (codeRule.build.run
      [("args", arguments), ("body", .atom body), ("name", name),
        ("visibility", .value (.visibility visibility))]).1 = .ok tree) :
    ∃ directive : Directive, tree = .value (.segment (.directive directive)) ∧
      directive.visibility = visibility ∧ directive.body = body.text ∧
        directive.span.stop = body.span.stop := by
  obtain ⟨nameSlice, between, named, behindName⟩ := Builder.bind_ok built
  have unchanged : between = [("args", arguments), ("body", .atom body), ("name", name),
      ("visibility", .value (.visibility visibility))] := by
    cases name with
    | atom slice =>
        cases named
        rfl
    | record | list | value => cases named
  subst unchanged
  obtain ⟨bodySlice, _, gotBody, behindBody⟩ := Builder.bind_ok behindName
  cases gotBody
  obtain ⟨flags, _, gotFlags, behindFlags⟩ := Builder.bind_ok behindBody
  cases gotFlags
  obtain ⟨values, _, _, behindValues⟩ := Builder.bind_ok behindFlags
  obtain ⟨given, _, _, ended⟩ := Builder.bind_ok behindValues
  cases ended
  exact ⟨_, rfl, rfl, rfl, rfl⟩

open Language.Directive (Block opening Unopened)

/-- A block that is reduced to a segment is a directive from its opening to its body. -/
theorem reduce_block {cursor next : Cursor} {block : Capture} {tree : Tree Part}
    {segment : Segment} (isBlock : Block cursor block next)
    (reduced : ruleset.reduce setting 1 (.ofCapture block) = .ok tree)
    (isSegment : Document.segmentOf tree = .ok segment) :
    ∃ (directive : Directive) (head body : List Char), segment = .directive directive ∧
      cursor.Passes (opening directive.visibility ++ (head ++ body)) next ∧ Unopened body ∧
        directive.body = .ofList body ∧ directive.span.stop = next.offset := by
  obtain ⟨passes, unopened⟩ := isBlock
  obtain ⟨_, insideReduced, nodeReduced⟩ := Ruleset.reduce_record reduced
  obtain ⟨_, _, blockReduced, nothing, rfl⟩ := Ruleset.reduceEntries_cons insideReduced
  cases nothing
  obtain ⟨_, fieldsReduced, blockNode⟩ := Ruleset.reduce_record blockReduced
  obtain ⟨arguments, _, _, behindArguments, rfl⟩ := Ruleset.reduceEntries_cons fieldsReduced
  obtain ⟨name, _, _, behindName, rfl⟩ := Ruleset.reduceEntries_cons behindArguments
  obtain ⟨_, _, bodyReduced, behindBody, rfl⟩ := Ruleset.reduceEntries_cons behindName
  obtain ⟨_, _, flagsReduced, nothing, rfl⟩ := Ruleset.reduceEntries_cons behindBody
  cases nothing
  cases bodyReduced
  cases (reduce_visibility _ _ _).symm.trans flagsReduced
  cases (reduceNode_block _ _ _ _).symm.trans blockNode
  rw [reduceNode_code, Ruleset.reduceNode] at nodeReduced
  split at nodeReduced
  · cases nodeReduced
    cases isSegment
  next bindings matched =>
    rw [match_code matched] at nodeReduced
    split at nodeReduced
    next made built =>
      cases nodeReduced
      obtain ⟨directive, rfl, rfl, sameBody, stop⟩ := build_code built
      cases isSegment
      exact ⟨directive, _, _, rfl, passes, unopened, sameBody, stop⟩
    · cases nodeReduced

end Part

end PegText
