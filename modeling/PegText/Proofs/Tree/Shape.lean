import PegText.Proofs.Entries
import PegText.Tree.Shape

/-!
What each form of shape asks of a tree, and which keys a matched record has. The fields of a record
shape are compared with the entries of a record by their number, and then looked up one by one, so
that every entry is looked at exactly if no key is listed twice.
-/

namespace PegText

variable {α : Type}

namespace Tree

mutual

def Distinct : Tree α → Prop
  | atom _ | value _ => True
  | record entries => (Entries.names entries).Nodup ∧ DistinctEntries entries
  | list items => DistinctItems items

def DistinctEntries : List (String × Tree α) → Prop
  | [] => True
  | (_, tree) :: rest => tree.Distinct ∧ DistinctEntries rest

def DistinctItems : List (Tree α) → Prop
  | [] => True
  | tree :: rest => tree.Distinct ∧ DistinctItems rest

end

theorem DistinctItems.of_mem {tree : Tree α} {items : List (Tree α)}
    (distinct : DistinctItems items) (member : tree ∈ items) : tree.Distinct := by
  induction items with
  | nil => cases member
  | cons item rest ih =>
      rcases List.mem_cons.mp member with rfl | inRest
      · exact distinct.1
      · exact ih distinct.2 inRest

theorem DistinctEntries.of_lookup {name : String} {tree : Tree α} {entries : List (String × Tree α)}
    (distinct : DistinctEntries entries) (found : Entries.lookup name entries = some tree) :
    tree.Distinct := by
  induction entries with
  | nil => cases found
  | cons entry rest ih =>
      rw [Entries.lookup_cons] at found
      split at found
      · exact Option.some.inj found ▸ distinct.1
      · exact ih distinct.2 found

end Tree

namespace Shape

section

variable [BEq α] {name : String} {tree : Tree α} {bindings after : Bindings α}

theorem bind?_simple :
    (simple name).bind? tree bindings = some after ↔
      tree.isSimple = true ∧ bindings.bind? name tree = some after := by
  rw [bind?]
  split
  next simple => exact (and_iff_right simple).symm
  next structured => simp [structured]

theorem bind?_sequence :
    (sequence name).bind? tree bindings = some after ↔
      (∃ items, tree = .list items ∧ items.all Tree.isSimple = true) ∧
        bindings.bind? name tree = some after := by
  cases tree with
  | atom | record | value => simp [bind?]
  | list items =>
      rw [bind?]
      by_cases flat : items.all Tree.isSimple = true
      · rw [if_pos flat]
        exact (and_iff_right ⟨items, rfl, flat⟩).symm
      · rw [if_neg flat]
        simp only [reduceCtorEq, false_iff, not_and]
        rintro ⟨_, same, flat'⟩
        cases same
        exact (flat flat').elim

theorem bind?_exact {text : String} :
    (exact text).bind? tree bindings = some after ↔
      (∃ slice, tree = .atom slice ∧ slice.text = text) ∧ bindings = after := by
  cases tree with
  | record | list | value => simp [bind?]
  | atom slice =>
      rw [bind?]
      by_cases same : slice.text = text
      · simp [same]
      · simp [same]

theorem bind?_record {fields : List (String × Shape)} :
    (record fields).bind? tree bindings = some after ↔
      ∃ entries, tree = .record entries ∧ fields.length = entries.length ∧
        bindFields? fields entries bindings = some after := by
  cases tree with
  | atom | list | value => simp [bind?]
  | record entries =>
      rw [bind?]
      by_cases fit : fields.length = entries.length
      · simp [fit]
      · simp [fit]

theorem bind?_list {shapes : List Shape} :
    (list shapes).bind? tree bindings = some after ↔
      ∃ items, tree = .list items ∧ shapes.length = items.length ∧
        bindItems? shapes items bindings = some after := by
  cases tree with
  | atom | record | value => simp [bind?]
  | list items =>
      rw [bind?]
      by_cases fit : shapes.length = items.length
      · simp [fit]
      · simp [fit]

theorem bindFields?_cons_iff {shape : Shape} {rest : List (String × Shape)}
    {entries : List (String × Tree α)} :
    bindFields? ((name, shape) :: rest) entries bindings = some after ↔
      ∃ tree between, Entries.lookup name entries = some tree ∧
        shape.bind? tree bindings = some between ∧
          bindFields? rest entries between = some after := by
  rw [bindFields?]
  cases Entries.lookup name entries with
  | none => simp
  | some tree => cases bound : shape.bind? tree bindings <;> simp [bound]

theorem bindItems?_cons_iff {shape : Shape} {shapes : List Shape} {trees : List (Tree α)} :
    bindItems? (shape :: shapes) (tree :: trees) bindings = some after ↔
      ∃ between, shape.bind? tree bindings = some between ∧
        bindItems? shapes trees between = some after := by
  rw [bindItems?]
  cases shape.bind? tree bindings <;> simp

end

inductive Faces : Shape → Tree α → Shape → Tree α → Prop
  | here {shape tree} : Faces shape tree shape tree
  | field {fields entries name inner tree part found} : (name, inner) ∈ fields →
      Entries.lookup name entries = some tree → Faces inner tree part found →
      Faces (.record fields) (.record entries) part found
  | item {shapes items inner tree part found} : (inner, tree) ∈ shapes.zip items →
      Faces inner tree part found → Faces (.list shapes) (.list items) part found

theorem Faces.distinct {shape part : Shape} {tree found : Tree α}
    (faces : Faces shape tree part found) (distinct : tree.Distinct) : found.Distinct := by
  induction faces with
  | here => exact distinct
  | field _ looked _ ih => exact ih (Tree.DistinctEntries.of_lookup distinct.2 looked)
  | item member _ ih => exact ih (Tree.DistinctItems.of_mem distinct (List.of_mem_zip member).2)

/-- As many fields as entries, each of them for one of the entries: these are all, unless a key is
listed twice. -/
theorem same_keys_iff_nodup {fields : List (String × Shape)} {entries : List (String × Tree α)}
    (distinct : (Entries.names entries).Nodup)
    (among : Entries.names fields ⊆ Entries.names entries)
    (fit : fields.length = entries.length) :
    (∀ key, key ∈ Entries.names fields ↔ key ∈ Entries.names entries) ↔
      (Entries.names fields).Nodup := by
  have fitNames : (Entries.names fields).length = (Entries.names entries).length := by
    rw [Entries.length_names, Entries.length_names, fit]
  constructor
  · intro same
    have back : Entries.names entries ⊆ Entries.names fields := fun key member =>
      (same key).mpr member
    have permuted : (Entries.names entries).Perm (Entries.names fields) :=
      (List.subperm_of_subset distinct back).perm_of_length_le fitNames.le
    exact permuted.nodup_iff.mp distinct
  · intro distinctFields key
    have permuted : (Entries.names fields).Perm (Entries.names entries) :=
      (List.subperm_of_subset distinctFields among).perm_of_length_le fitNames.ge
    exact permuted.mem_iff

section

variable [BEq α] {bindings after : Bindings α}

theorem keys_of_bindFields? {fields : List (String × Shape)} {entries : List (String × Tree α)}
    (matched : bindFields? fields entries bindings = some after) :
    Entries.names fields ⊆ Entries.names entries := by
  induction fields generalizing bindings with
  | nil => exact List.nil_subset _
  | cons field rest ih =>
      obtain ⟨tree, between, found, -, later⟩ := bindFields?_cons_iff.mp matched
      exact List.cons_subset.mpr ⟨Entries.mem_names_of_lookup found, ih later⟩

theorem bind?_of_field {fields : List (String × Shape)} {entries : List (String × Tree α)}
    {name : String} {inner : Shape} {tree : Tree α} (member : (name, inner) ∈ fields)
    (found : Entries.lookup name entries = some tree)
    (matched : bindFields? fields entries bindings = some after) :
    ∃ before behind, inner.bind? tree before = some behind := by
  induction fields generalizing bindings with
  | nil => exact (List.not_mem_nil member).elim
  | cons field rest ih =>
      obtain ⟨first, between, foundFirst, bound, later⟩ := bindFields?_cons_iff.mp matched
      rcases List.mem_cons.mp member with rfl | inRest
      · cases foundFirst.symm.trans found
        exact ⟨bindings, between, bound⟩
      · exact ih inRest later

theorem bind?_of_item {shapes : List Shape} {items : List (Tree α)} {inner : Shape}
    {tree : Tree α} (member : (inner, tree) ∈ shapes.zip items)
    (matched : bindItems? shapes items bindings = some after) :
    ∃ before behind, inner.bind? tree before = some behind := by
  induction shapes generalizing items bindings with
  | nil => cases member
  | cons shape shapes ih =>
      cases items with
      | nil => cases member
      | cons item items =>
          obtain ⟨between, bound, later⟩ := bindItems?_cons_iff.mp matched
          rcases List.mem_cons.mp member with same | inRest
          · cases same
            exact ⟨bindings, between, bound⟩
          · exact ih inRest later

/-- In a match each part of the shape is matched against the subtree that it faces. -/
theorem Faces.bind? {shape part : Shape} {tree found : Tree α}
    (faces : Faces shape tree part found) (matched : shape.bind? tree bindings = some after) :
    ∃ before behind, part.bind? found before = some behind := by
  induction faces generalizing bindings after with
  | here => exact ⟨bindings, after, matched⟩
  | field member looked _ ih =>
      obtain ⟨_, same, -, inside⟩ := bind?_record.mp matched
      cases same
      obtain ⟨_, _, bound⟩ := bind?_of_field member looked inside
      exact ih bound
  | item member _ ih =>
      obtain ⟨_, same, -, inside⟩ := bind?_list.mp matched
      cases same
      obtain ⟨_, _, bound⟩ := bind?_of_item member inside
      exact ih bound

/-- A matched record has all the keys that its shape lists, and as many entries as fields. It has no
other key exactly if none is listed twice. -/
theorem keys_of_match {shape : Shape} {tree : Tree α} {bindings : Bindings α}
    (distinct : tree.Distinct) (matched : shape.match? tree = some bindings)
    {fields : List (String × Shape)} {found : Tree α}
    (faces : Faces shape tree (.record fields) found) :
    ∃ entries, found = .record entries ∧ fields.length = entries.length ∧
      Entries.names fields ⊆ Entries.names entries ∧
        ((∀ key, key ∈ Entries.names fields ↔ key ∈ Entries.names entries) ↔
          (Entries.names fields).Nodup) := by
  obtain ⟨_, _, bound⟩ := faces.bind? matched
  obtain ⟨entries, rfl, fit, inside⟩ := bind?_record.mp bound
  have among := keys_of_bindFields? inside
  exact ⟨entries, rfl, fit, among, same_keys_iff_nodup (faces.distinct distinct).1 among fit⟩

end

theorem keys_of_match_inside_list :
    let fields : List (String × Shape) := [("a", .subtree "x"), ("b", .exact "2")]
    let entries : List (String × Tree String) := [("a", .list []), ("b", .atom (.whole "2"))]
    Tree.Distinct (.list [.record entries]) ∧
      (list [record fields]).match? (.list [.record entries]) = some [("x", .list [])] ∧
        Faces (list [record fields]) (.list [.record entries]) (.record fields)
          (.record entries) ∧
          ∀ key, key ∈ Entries.names fields ↔ key ∈ Entries.names entries := by
  intro fields entries
  have distinct : Tree.Distinct (.list [.record entries]) := by
    simp [Tree.Distinct, Tree.DistinctItems, Tree.DistinctEntries, entries, Entries.names]
  have matched : (list [record fields]).match? (.list [.record entries]) =
      some [("x", .list [])] := rfl
  have faces : Faces (list [record fields]) (.list [.record entries]) (.record fields)
      (.record entries) := .item List.mem_cons_self .here
  obtain ⟨_, same, -, -, exactly⟩ := keys_of_match distinct matched faces
  cases same
  exact ⟨distinct, matched, faces, exactly.mpr (by decide)⟩

/-- A key that is listed twice makes up for an entry that nothing looks at. -/
theorem match?_repeated_key :
    let fields : List (String × Shape) := [("a", .simple "x"), ("a", .simple "x")]
    let entries : List (String × Tree String) :=
      [("a", .atom (.whole "1")), ("b", .atom (.whole "2"))]
    Tree.Distinct (.record entries) ∧
      (record fields).match? (.record entries) = some [("x", .atom (.whole "1"))] ∧
        Faces (record fields) (.record entries) (.record fields) (.record entries) ∧
          ¬∀ key, key ∈ Entries.names fields ↔ key ∈ Entries.names entries := by
  intro fields entries
  have distinct : Tree.Distinct (.record entries) := by
    simp [Tree.Distinct, Tree.DistinctEntries, entries, Entries.names]
  refine ⟨distinct, rfl, .here, fun same => ?_⟩
  have unlisted : "b" ∉ Entries.names fields := by decide
  exact unlisted ((same "b").mpr (by decide))

end Shape

end PegText
