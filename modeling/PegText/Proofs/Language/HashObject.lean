import PegText.Proofs.Language.Argument
import PegText.Proofs.Language.Arguments

/-!
How hash objects are written, which trees show their pairs, and what these trees are reduced to: a
record of the pairs, or the report of the first key that repeats an earlier one.
-/

namespace PegText.Language.Arguments

open CharClass (isHashKeyChar)
open Language.Directive (Literal)

structure Pair where
  key : List Char
  value : Literal

def Key (text : List Char) : Prop := text ≠ [] ∧ ∀ c ∈ text, isHashKeyChar c = true

inductive Pair.Spells : Pair → List Char → Prop
  | mk {key blanks value text} : Key key → Blank blanks → Literal.Spells value text →
      Spells ⟨key, value⟩ (key ++ (':' :: blanks) ++ text)

inductive SpellsMore : List Pair → List Char → Prop
  | nil : SpellsMore [] []
  | cons {before behind next text rest more} : Blank before → Blank behind →
      Pair.Spells next text → SpellsMore rest more →
      SpellsMore (next :: rest) (before ++ (',' :: behind) ++ text ++ more)

inductive SpellsObject : List Pair → List Char → Prop
  | mk {front inside first text rest more back behind} : Blank front → Blank inside →
      Pair.Spells first text → SpellsMore rest more → Blank back → Blank behind →
      SpellsObject (first :: rest)
        (front ++ ('\x7b' :: inside) ++ (text ++ more) ++ (back ++ ('\x7d' :: behind)))

def valueText : Literal → String
  | .str content => .ofList content
  | .int digits => .ofList digits

namespace Pair

def name (pair : Pair) : String := .ofList pair.key

def text (pair : Pair) : String := valueText pair.value

end Pair

/-- The record has each key of the pairs with the text of its value, and no other key. -/
structure Holds (pairs : List Pair) (entries : List (String × Tree Plain)) : Prop where
  ordered : Entries.Ordered entries
  entries : (entries.map fun entry => (entry.1, entry.2.text?)).Perm
    (pairs.map fun pair => (pair.name, some pair.text))

/-- What pairs are collected to: entries, as long as their keys are distinct, or else the complaint
about the first key that has been given before. -/
inductive Collects (pairs : List Pair) :
    Except BindingError (List (String × Tree Plain)) → Prop
  | all {entries} : (pairs.map Pair.name).Nodup → Holds pairs entries → Collects pairs (.ok entries)
  | repeated {front key back} : pairs.map Pair.name = front ++ key :: back → front.Nodup →
      key ∈ front → Collects pairs (.error (.invalid s!"key '{key}' is given more than once"))

/-- How a hash object is read: to a record of its pairs, or, if a key repeats an earlier one, to a
complaint about the first that does. -/
inductive Reads (pairs : List Pair) : Except Diagnostic (Tree Plain) → Prop
  | record {entries} : (pairs.map Pair.name).Nodup → Holds pairs entries →
      Reads pairs (.ok (.record entries))
  | repeated {front key back diagnostic shown} :
      pairs.map Pair.name = front ++ key :: back → front.Nodup → key ∈ front →
      diagnostic.cause =
        .malformedBinding "named_args" shown s!"key '{key}' is given more than once" →
      Reads pairs (.error diagnostic)

inductive Pair.Pictures : Pair → Capture → Prop
  | mk {key slice value capture} : slice.text = .ofList key → Literal.Pictures value capture →
      Pictures ⟨key, value⟩
        (.tagged "key_value" (.record [("key", .atom slice), ("val", capture)]))

inductive Pair.Shown : Pair → Tree Plain → Prop
  | mk {pair key value} : key.text = pair.name → value.text = pair.text →
      Shown pair (.record [("key_value", .record [("key", .atom key), ("val", .atom value)])])

theorem keyValue_shown {pair : Pair} {tree : Tree Plain} (shown : pair.Shown tree) :
    ∃ slice, keyValue tree = .ok (pair.name, .atom slice) ∧ slice.text = pair.text := by
  cases shown with
  | @mk key value sameKey sameText =>
      refine ⟨value, ?_, sameText⟩
      rw [← sameKey]
      simp (disch := decide) [keyValue, Shape.match?, Shape.bind?, Shape.bindFields?,
        Entries.lookup, List.lookup_cons, Tree.isSimple, Bindings.bind?, Entries.insert_nil,
        Entries.insert_of_gt]
      rfl

theorem Holds.nil : Holds [] [] := ⟨List.Pairwise.nil, .nil⟩

theorem Holds.names {pairs : List Pair} {entries : List (String × Tree Plain)}
    (holds : Holds pairs entries) : (Entries.names entries).Perm (pairs.map Pair.name) := by
  have names := holds.entries.map Prod.fst
  rwa [List.map_map, List.map_map] at names

theorem Holds.insert {pairs : List Pair} {entries : List (String × Tree Plain)} {pair : Pair}
    {slice : Slice} (holds : Holds pairs entries) (new : pair.name ∉ Entries.names entries)
    (sameText : slice.text = pair.text) :
    Holds (pairs ++ [pair]) (Entries.insert pair.name (.atom slice) entries) := by
  refine ⟨Entries.ordered_insert holds.ordered, ?_⟩
  have inserted := (@Entries.insert_perm _ _ (Tree.atom slice : Tree Plain) _ new).map
    fun entry => (entry.1, entry.2.text?)
  have added : Tree.text? (.atom slice : Tree Plain) = some pair.text := by rw [Tree.text?, sameText]
  rw [List.map_cons, added] at inserted
  rw [List.map_append]
  exact inserted.trans ((holds.entries.cons _).trans (List.perm_append_singleton _ _).symm)

theorem collect_collects {pairs known : List Pair} {items : List (Tree Plain)}
    {entries : List (String × Tree Plain)} (shown : List.Forall₂ Pair.Shown pairs items)
    (distinct : (known.map Pair.name).Nodup) (holds : Holds known entries) :
    Collects (known ++ pairs) (collect entries items) := by
  induction shown generalizing known entries with
  | nil =>
      rw [List.append_nil]
      exact .all distinct holds
  | @cons pair item pairs items first _ ih =>
      obtain ⟨slice, read, sameText⟩ := keyValue_shown first
      have sameNames := holds.names
      rw [collect, read]
      dsimp only
      split
      next given =>
        have repeats : pair.name ∈ known.map Pair.name :=
          sameNames.mem_iff.mp (Entries.contains_iff.mp given)
        have split : (known ++ pair :: pairs).map Pair.name =
            known.map Pair.name ++ pair.name :: pairs.map Pair.name := List.map_append
        exact .repeated split distinct repeats
      next notGiven =>
        have new : pair.name ∉ Entries.names entries := mt Entries.contains_iff.mpr notGiven
        have distinctMore : ((known ++ [pair]).map Pair.name).Nodup := by
          rw [List.map_append, List.map_cons, List.map_nil, ← List.concat_eq_append]
          exact distinct.concat (mt sameNames.mem_iff.mpr new)
        have later := ih distinctMore (holds.insert new sameText)
        rwa [List.append_assoc] at later

section

variable {setting : Ruleset.Setting Plain} {depth : Nat}

theorem reduce_atom (slice : Slice) (room : depth < Ruleset.defaultMaxDepth) :
    ruleset.reduce setting depth (.atom slice) = .ok (.atom slice) :=
  Ruleset.reduce_atom_eq room slice

theorem reduce_value {value : Literal} {capture : Capture} (pictures : value.Pictures capture)
    (room : depth + 1 < Ruleset.defaultMaxDepth) :
    ∃ slice, ruleset.reduce setting depth (.ofCapture capture) = .ok (.atom slice) ∧
      slice.text = valueText value := by
  have entry (name : String) (slice : Slice) :
      ruleset.reduceEntries setting (depth + 1) [(name, .atom slice)] =
        .ok [(name, .atom slice)] := by
    rw [Ruleset.reduceEntries, reduce_atom slice room]
    rfl
  have above : depth < Ruleset.defaultMaxDepth := by omega
  cases pictures with
  | @str _ slice sameText =>
      exact ⟨slice, Ruleset.reduce_record_eq above (entry "string" slice), sameText⟩
  | @int _ slice _ sameText =>
      exact ⟨slice, Ruleset.reduce_record_eq above (entry "int" slice), sameText⟩

theorem reduce_pair {pair : Pair} {capture : Capture} (pictures : pair.Pictures capture)
    (room : depth + 3 < Ruleset.defaultMaxDepth) :
    ∃ tree, ruleset.reduce setting depth (.ofCapture capture) = .ok tree ∧ pair.Shown tree := by
  cases pictures with
  | @mk key slice value capture sameKey valuePictures =>
      obtain ⟨text, reduced, sameText⟩ :=
        @reduce_value setting (depth + 2) value capture valuePictures room
      have both : ruleset.reduceEntries setting (depth + 2)
          [("key", .atom slice), ("val", .ofCapture capture)] =
            .ok [("key", .atom slice), ("val", .atom text)] := by
        rw [Ruleset.reduceEntries, reduce_atom slice (by omega), Ruleset.reduceEntries, reduced]
        rfl
      have inside : ruleset.reduce setting (depth + 1)
          (.record [("key", .atom slice), ("val", .ofCapture capture)]) =
            .ok (.record [("key", .atom slice), ("val", .atom text)]) :=
        Ruleset.reduce_record_eq (Nat.lt_of_le_of_lt (by omega) room) both
      have entry : ruleset.reduceEntries setting (depth + 1)
          [("key_value", .record [("key", .atom slice), ("val", .ofCapture capture)])] =
            .ok [("key_value", .record [("key", .atom slice), ("val", .atom text)])] := by
        rw [Ruleset.reduceEntries, inside]
        rfl
      exact ⟨_, Ruleset.reduce_record_eq (Nat.lt_of_le_of_lt (by omega) room) entry,
        .mk sameKey sameText⟩

theorem reduce_pairs {pairs : List Pair} {captures : List Capture}
    (pictures : List.Forall₂ Pair.Pictures pairs captures)
    (room : depth + 3 < Ruleset.defaultMaxDepth) :
    ∃ items, ruleset.reduceItems setting depth (Tree.ofItems captures) = .ok items ∧
      List.Forall₂ Pair.Shown pairs items := by
  induction pictures with
  | nil => exact ⟨[], rfl, .nil⟩
  | cons first _ ih =>
      obtain ⟨tree, reduced, shown⟩ := reduce_pair first room
      obtain ⟨items, reducedMore, shownMore⟩ := ih
      refine ⟨tree :: items, ?_, .cons shown shownMore⟩
      rw [Tree.ofItems, Ruleset.reduceItems, reduced, reducedMore]
      rfl

def objectRule : TreeRule Plain := ruleset.rules[2]

def objectOf : Except BindingError (List (String × Tree Plain)) → Builder Plain (Tree Plain)
  | .ok entries => return .record entries
  | .error error => throw error

theorem build_object (items : List (Tree Plain)) :
    (objectRule.build.run [("args", .list items)]).1 = (collect [] items).map .record := by
  have unfolded : objectRule.build.run [("args", .list items)] =
      ExceptT.run (objectOf (collect [] items)) [] := rfl
  rw [unfolded]
  cases collect [] items <;> rfl

/-- The captures of pairs are reduced to what is read from the pairs. -/
theorem applyCapture_reads {pairs : List Pair} {captures : List Capture}
    (pictures : List.Forall₂ Pair.Pictures pairs captures) :
    Reads pairs (ruleset.applyCapture setting (.tagged "named_args" (.list captures))) := by
  obtain ⟨items, reduced, shown⟩ := @reduce_pairs setting 2 pairs captures pictures (by decide)
  have inside : ruleset.reduce setting 1 (.list (Tree.ofItems captures)) = .ok (.list items) :=
    Ruleset.reduce_list_eq (by decide) reduced
  have entry : ruleset.reduceEntries setting 1 [("named_args", .list (Tree.ofItems captures))] =
      .ok [("named_args", .list items)] := by
    rw [Ruleset.reduceEntries, inside]
    rfl
  have applied : ruleset.applyCapture setting (.tagged "named_args" (.list captures)) =
      Ruleset.reduceNode setting [objectRule] (.record [("named_args", .list items)]) :=
    Ruleset.reduce_record_eq (by decide) entry
  have matched : objectRule.shape.match? (.record [("named_args", (.list items : Tree Plain))]) =
      some [("args", .list items)] := rfl
  have collected := @collect_collects pairs [] items [] shown List.nodup_nil .nil
  rw [applied, Ruleset.reduceNode, matched]
  dsimp only
  rw [build_object]
  rw [List.nil_append] at collected
  generalize collect [] items = answer at collected
  cases collected with
  | all distinct holds => exact .record distinct holds
  | repeated same distinct again =>
      exact .repeated same distinct again (Diagnostic.cause_locate _ _ _)

end

end PegText.Language.Arguments
