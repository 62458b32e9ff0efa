import PegText.Proofs.Tree.Bindings
import PegText.Proofs.Tree.Shape

/-!
What a match says about the placeholders of a shape. A tree has a shape if the placeholders can be
put on subtrees of the right kind and one assignment of trees to names suits all of them. The
fields of a record shape may stand in any order.
-/

namespace PegText.Shape

variable {α : Type}

mutual

def Distinct : Shape → Prop
  | simple _ | sequence _ | subtree _ | exact _ => True
  | record fields => (Entries.names fields).Nodup ∧ DistinctFields fields
  | list items => DistinctItems items

def DistinctFields : List (String × Shape) → Prop
  | [] => True
  | (_, shape) :: rest => shape.Distinct ∧ DistinctFields rest

def DistinctItems : List Shape → Prop
  | [] => True
  | shape :: rest => shape.Distinct ∧ DistinctItems rest

end

theorem distinctFields_iff {fields : List (String × Shape)} :
    DistinctFields fields ↔ ∀ field ∈ fields, field.2.Distinct := by
  induction fields with
  | nil => exact iff_of_true trivial fun _ member => (List.not_mem_nil member).elim
  | cons field rest ih => rw [List.forall_mem_cons, ← ih, DistinctFields]

theorem distinctItems_iff {items : List Shape} :
    DistinctItems items ↔ ∀ item ∈ items, item.Distinct := by
  induction items with
  | nil => exact iff_of_true trivial fun _ member => (List.not_mem_nil member).elim
  | cons item rest ih => rw [List.forall_mem_cons, ← ih, DistinctItems]

mutual

def placeholders : Shape → List String
  | simple name | sequence name | subtree name => [name]
  | exact _ => []
  | record fields => fieldPlaceholders fields
  | list items => itemPlaceholders items

def fieldPlaceholders : List (String × Shape) → List String
  | [] => []
  | (_, shape) :: rest => shape.placeholders ++ fieldPlaceholders rest

def itemPlaceholders : List Shape → List String
  | [] => []
  | shape :: rest => shape.placeholders ++ itemPlaceholders rest

end

mutual

/-- The subtrees on which the placeholders of a shape sit, in the order of the shape. -/
inductive Places : Shape → Tree α → List (String × Tree α) → Prop
  | simple {name tree} : tree.isSimple = true → Places (.simple name) tree [(name, tree)]
  | sequence {name items} : items.all Tree.isSimple = true →
      Places (.sequence name) (.list items) [(name, .list items)]
  | subtree {name tree} : Places (.subtree name) tree [(name, tree)]
  | exact {text slice} : slice.text = text → Places (.exact text) (.atom slice) []
  | record {fields entries spots} :
      (∀ key, key ∈ Entries.names fields ↔ key ∈ Entries.names entries) →
      PlacesFields fields entries spots → Places (.record fields) (.record entries) spots
  | list {shapes items spots} : PlacesItems shapes items spots →
      Places (.list shapes) (.list items) spots

inductive PlacesFields :
    List (String × Shape) → List (String × Tree α) → List (String × Tree α) → Prop
  | nil {entries} : PlacesFields [] entries []
  | cons {name shape rest entries tree spots more} : Entries.lookup name entries = some tree →
      Places shape tree spots → PlacesFields rest entries more →
      PlacesFields ((name, shape) :: rest) entries (spots ++ more)

inductive PlacesItems : List Shape → List (Tree α) → List (String × Tree α) → Prop
  | nil : PlacesItems [] [] []
  | cons {shape shapes tree trees spots more} : Places shape tree spots →
      PlacesItems shapes trees more →
      PlacesItems (shape :: shapes) (tree :: trees) (spots ++ more)

end

mutual

theorem Places.names_eq {shape : Shape} {tree : Tree α} {spots : List (String × Tree α)}
    (places : Places shape tree spots) : Entries.names spots = shape.placeholders := by
  match places with
  | .simple _ | .sequence _ | .subtree | .exact _ => rfl
  | .record _ inside => exact inside.names_eq
  | .list inside => exact inside.names_eq

theorem PlacesFields.names_eq {fields : List (String × Shape)} {entries : List (String × Tree α)}
    {spots : List (String × Tree α)} (places : PlacesFields fields entries spots) :
    Entries.names spots = fieldPlaceholders fields := by
  match places with
  | .nil => rfl
  | .cons _ first later =>
      rw [fieldPlaceholders, ← first.names_eq, ← later.names_eq]
      exact List.map_append

theorem PlacesItems.names_eq {shapes : List Shape} {trees : List (Tree α)}
    {spots : List (String × Tree α)} (places : PlacesItems shapes trees spots) :
    Entries.names spots = itemPlaceholders shapes := by
  match places with
  | .nil => rfl
  | .cons first later =>
      rw [itemPlaceholders, ← first.names_eq, ← later.names_eq]
      exact List.map_append

end

/-! A match binds the placeholders of a shape in their places. -/

theorem length_eq_of_same_keys {fields : List (String × Shape)} {entries : List (String × Tree α)}
    (distinct : (Entries.names fields).Nodup) (distinct' : (Entries.names entries).Nodup)
    (same : ∀ key, key ∈ Entries.names fields ↔ key ∈ Entries.names entries) :
    fields.length = entries.length := by
  have permuted := (List.perm_ext_iff_of_nodup distinct distinct').mpr same
  rw [← Entries.length_names, permuted.length_eq, Entries.length_names]

theorem PlacesItems.length_eq {shapes : List Shape} {trees : List (Tree α)}
    {spots : List (String × Tree α)} (places : PlacesItems shapes trees spots) :
    shapes.length = trees.length := by
  induction shapes generalizing trees spots with
  | nil =>
      cases places
      rfl
  | cons shape shapes ih =>
      cases places with
      | cons first later => exact congrArg Nat.succ (ih later)

section

variable [BEq α]

mutual

theorem bind?_iff_places {shape : Shape} {tree : Tree α} {bindings after : Bindings α}
    (distinct : shape.Distinct) (distinctTree : tree.Distinct) :
    shape.bind? tree bindings = some after ↔
      ∃ spots, Places shape tree spots ∧ bindings.bindAll? spots = some after := by
  match shape with
  | .simple name =>
      rw [bind?_simple]
      constructor
      · rintro ⟨simple, bound⟩
        exact ⟨_, .simple simple, Bindings.bindAll?_singleton.trans bound⟩
      · rintro ⟨spots, places, bound⟩
        cases places with
        | simple simple => exact ⟨simple, Bindings.bindAll?_singleton.symm.trans bound⟩
  | .sequence name =>
      rw [bind?_sequence]
      constructor
      · rintro ⟨⟨items, rfl, flat⟩, bound⟩
        exact ⟨_, .sequence flat, Bindings.bindAll?_singleton.trans bound⟩
      · rintro ⟨spots, places, bound⟩
        cases places with
        | sequence flat => exact ⟨⟨_, rfl, flat⟩, Bindings.bindAll?_singleton.symm.trans bound⟩
  | .subtree name =>
      rw [bind?]
      constructor
      · intro bound
        exact ⟨_, .subtree, Bindings.bindAll?_singleton.trans bound⟩
      · rintro ⟨spots, places, bound⟩
        cases places with
        | subtree => exact Bindings.bindAll?_singleton.symm.trans bound
  | .exact text =>
      rw [bind?_exact]
      constructor
      · rintro ⟨⟨slice, rfl, same⟩, rfl⟩
        exact ⟨[], .exact same, rfl⟩
      · rintro ⟨spots, places, bound⟩
        cases places with
        | exact same => exact ⟨⟨_, rfl, same⟩, Option.some.inj bound⟩
  | .record fields =>
      rw [bind?_record]
      constructor
      · rintro ⟨entries, rfl, fit, inside⟩
        -- as many fields as entries, and no key twice on either side: the keys are the same
        have among := keys_of_bindFields? inside
        have same := (same_keys_iff_nodup distinctTree.1 among fit).mpr distinct.1
        obtain ⟨spots, places, bound⟩ :=
          (bindFields?_iff_places distinct.2 distinctTree.2).mp inside
        exact ⟨spots, .record same places, bound⟩
      · rintro ⟨spots, places, bound⟩
        cases places with
        | record same inside =>
            exact ⟨_, rfl, length_eq_of_same_keys distinct.1 distinctTree.1 same,
              (bindFields?_iff_places distinct.2 distinctTree.2).mpr ⟨spots, inside, bound⟩⟩
  | .list shapes =>
      rw [bind?_list]
      constructor
      · rintro ⟨items, rfl, fit, inside⟩
        obtain ⟨spots, places, bound⟩ := (bindItems?_iff_places distinct distinctTree fit).mp inside
        exact ⟨spots, .list places, bound⟩
      · rintro ⟨spots, places, bound⟩
        cases places with
        | list inside =>
            exact ⟨_, rfl, inside.length_eq,
              (bindItems?_iff_places distinct distinctTree inside.length_eq).mpr
                ⟨spots, inside, bound⟩⟩

theorem bindFields?_iff_places {fields : List (String × Shape)} {entries : List (String × Tree α)}
    {bindings after : Bindings α} (distinct : DistinctFields fields)
    (distinctTrees : Tree.DistinctEntries entries) :
    bindFields? fields entries bindings = some after ↔
      ∃ spots, PlacesFields fields entries spots ∧ bindings.bindAll? spots = some after := by
  match fields with
  | [] =>
      constructor
      · intro bound
        exact ⟨[], .nil, bound⟩
      · rintro ⟨spots, places, bound⟩
        cases places
        exact bound
  | (name, shape) :: rest =>
      rw [bindFields?_cons_iff]
      constructor
      · rintro ⟨tree, between, found, first, later⟩
        have distinctTree := distinctTrees.of_lookup found
        obtain ⟨spots, places, bound⟩ := (bind?_iff_places distinct.1 distinctTree).mp first
        obtain ⟨more, placesRest, boundRest⟩ :=
          (bindFields?_iff_places distinct.2 distinctTrees).mp later
        exact ⟨spots ++ more, .cons found places placesRest,
          Bindings.bindAll?_append.mpr ⟨between, bound, boundRest⟩⟩
      · rintro ⟨spots, places, bound⟩
        cases places with
        | cons found first later =>
            obtain ⟨between, bound, boundRest⟩ := Bindings.bindAll?_append.mp bound
            have distinctTree := distinctTrees.of_lookup found
            exact ⟨_, between, found,
              (bind?_iff_places distinct.1 distinctTree).mpr ⟨_, first, bound⟩,
              (bindFields?_iff_places distinct.2 distinctTrees).mpr ⟨_, later, boundRest⟩⟩

theorem bindItems?_iff_places {shapes : List Shape} {trees : List (Tree α)}
    {bindings after : Bindings α} (distinct : DistinctItems shapes)
    (distinctTrees : Tree.DistinctItems trees) (fit : shapes.length = trees.length) :
    bindItems? shapes trees bindings = some after ↔
      ∃ spots, PlacesItems shapes trees spots ∧ bindings.bindAll? spots = some after := by
  match shapes, trees with
  | [], [] =>
      constructor
      · intro bound
        exact ⟨[], .nil, bound⟩
      · rintro ⟨spots, places, bound⟩
        cases places
        exact bound
  | [], _ :: _ | _ :: _, [] => cases fit
  | shape :: shapes, tree :: trees =>
      have fitRest : shapes.length = trees.length := Nat.succ.inj fit
      rw [bindItems?_cons_iff]
      constructor
      · rintro ⟨between, first, later⟩
        obtain ⟨spots, places, bound⟩ := (bind?_iff_places distinct.1 distinctTrees.1).mp first
        obtain ⟨more, placesRest, boundRest⟩ :=
          (bindItems?_iff_places distinct.2 distinctTrees.2 fitRest).mp later
        exact ⟨spots ++ more, .cons places placesRest,
          Bindings.bindAll?_append.mpr ⟨between, bound, boundRest⟩⟩
      · rintro ⟨spots, places, bound⟩
        cases places with
        | cons first later =>
            obtain ⟨between, bound, boundRest⟩ := Bindings.bindAll?_append.mp bound
            exact ⟨between,
              (bind?_iff_places distinct.1 distinctTrees.1).mpr ⟨_, first, bound⟩,
              (bindItems?_iff_places distinct.2 distinctTrees.2 fitRest).mpr
                ⟨_, later, boundRest⟩⟩

end

end

inductive Rearranges : Shape → Shape → Prop
  | fields {fields others} : fields.Perm others → Rearranges (.record fields) (.record others)
  | inField {before name shape other behind} : Rearranges shape other →
      Rearranges (.record (before ++ (name, shape) :: behind))
        (.record (before ++ (name, other) :: behind))
  | inItem {before shape other behind} : Rearranges shape other →
      Rearranges (.list (before ++ shape :: behind)) (.list (before ++ other :: behind))
  | trans {shape between other} : Rearranges shape between → Rearranges between other →
      Rearranges shape other

theorem Rearranges.symm {shape other : Shape} (rearranges : Rearranges shape other) :
    Rearranges other shape := by
  induction rearranges with
  | fields permuted => exact .fields permuted.symm
  | inField _ ih => exact .inField ih
  | inItem _ ih => exact .inItem ih
  | trans _ _ ih ih' => exact .trans ih' ih

theorem Rearranges.distinct {shape other : Shape} (rearranges : Rearranges shape other)
    (distinct : shape.Distinct) : other.Distinct := by
  induction rearranges with
  | fields permuted =>
      refine ⟨(Entries.names_perm permuted).nodup_iff.mp distinct.1, distinctFields_iff.mpr ?_⟩
      exact fun field member => distinctFields_iff.mp distinct.2 field (permuted.mem_iff.mpr member)
  | inField _ ih =>
      obtain ⟨names, inside⟩ := distinct
      rw [distinctFields_iff, List.forall_mem_append, List.forall_mem_cons] at inside
      refine ⟨?_, distinctFields_iff.mpr ?_⟩
      · simpa [Entries.names] using names
      · rw [List.forall_mem_append, List.forall_mem_cons]
        exact ⟨inside.1, ih inside.2.1, inside.2.2⟩
  | inItem _ ih =>
      have inside := distinctItems_iff.mp distinct
      rw [List.forall_mem_append, List.forall_mem_cons] at inside
      refine distinctItems_iff.mpr ?_
      rw [List.forall_mem_append, List.forall_mem_cons]
      exact ⟨inside.1, ih inside.2.1, inside.2.2⟩
  | trans _ _ ih ih' => exact ih' (ih distinct)

theorem PlacesFields.perm {fields others : List (String × Shape)}
    {entries : List (String × Tree α)} {spots : List (String × Tree α)}
    (permuted : fields.Perm others) (places : PlacesFields fields entries spots) :
    ∃ spots', PlacesFields others entries spots' ∧ spots.Perm spots' := by
  induction permuted generalizing spots with
  | nil => exact ⟨spots, places, .refl _⟩
  | cons field _ ih =>
      cases places with
      | cons found first later =>
          obtain ⟨more, places, permuted⟩ := ih later
          exact ⟨_, .cons found first places, permuted.append_left _⟩
  | swap field field' rest =>
      cases places with
      | cons found first later =>
          cases later with
          | cons found' first' later =>
              refine ⟨_, .cons found' first' (.cons found first later), ?_⟩
              rw [← List.append_assoc, ← List.append_assoc]
              exact List.perm_append_comm.append_right _
  | trans _ _ ih ih' =>
      obtain ⟨between, places, permuted⟩ := ih places
      obtain ⟨spots', places', permuted'⟩ := ih' places
      exact ⟨spots', places', permuted.trans permuted'⟩

theorem PlacesFields.replace {before behind : List (String × Shape)} {name : String}
    {shape other : Shape} {entries : List (String × Tree α)} {spots : List (String × Tree α)}
    (replaced : ∀ (tree : Tree α) spots, Places shape tree spots →
      ∃ spots', Places other tree spots' ∧ spots.Perm spots')
    (places : PlacesFields (before ++ (name, shape) :: behind) entries spots) :
    ∃ spots', PlacesFields (before ++ (name, other) :: behind) entries spots' ∧
      spots.Perm spots' := by
  induction before generalizing spots with
  | nil =>
      cases places with
      | cons found first later =>
          obtain ⟨spots', places, permuted⟩ := replaced _ _ first
          exact ⟨_, .cons found places later, permuted.append_right _⟩
  | cons field before ih =>
      cases places with
      | cons found first later =>
          obtain ⟨more, places, permuted⟩ := ih later
          exact ⟨_, .cons found first places, permuted.append_left _⟩

theorem PlacesItems.replace {before behind : List Shape} {shape other : Shape}
    {trees : List (Tree α)} {spots : List (String × Tree α)}
    (replaced : ∀ (tree : Tree α) spots, Places shape tree spots →
      ∃ spots', Places other tree spots' ∧ spots.Perm spots')
    (places : PlacesItems (before ++ shape :: behind) trees spots) :
    ∃ spots', PlacesItems (before ++ other :: behind) trees spots' ∧ spots.Perm spots' := by
  induction before generalizing trees spots with
  | nil =>
      cases places with
      | cons first later =>
          obtain ⟨spots', places, permuted⟩ := replaced _ _ first
          exact ⟨_, .cons places later, permuted.append_right _⟩
  | cons item before ih =>
      cases places with
      | cons first later =>
          obtain ⟨more, places, permuted⟩ := ih later
          exact ⟨_, .cons first places, permuted.append_left _⟩

theorem Rearranges.places {shape other : Shape} {tree : Tree α} {spots : List (String × Tree α)}
    (rearranges : Rearranges shape other) (places : Places shape tree spots) :
    ∃ spots', Places other tree spots' ∧ spots.Perm spots' := by
  induction rearranges generalizing tree spots with
  | fields permuted =>
      cases places with
      | record same inside =>
          obtain ⟨spots', inside', permuted'⟩ := inside.perm permuted
          refine ⟨spots', .record (fun key => ?_) inside', permuted'⟩
          rw [← same]
          exact (Entries.names_perm permuted).mem_iff.symm
  | inField _ ih =>
      cases places with
      | record same inside =>
          obtain ⟨spots', inside', permuted⟩ := inside.replace fun _ _ => ih
          refine ⟨spots', .record (fun key => ?_) inside', permuted⟩
          rw [← same]
          simp [Entries.names]
  | inItem _ ih =>
      cases places with
      | list inside =>
          obtain ⟨spots', inside', permuted⟩ := inside.replace fun _ _ => ih
          exact ⟨spots', .list inside', permuted⟩
  | trans _ _ ih ih' =>
      obtain ⟨between, places, permuted⟩ := ih places
      obtain ⟨spots', places', permuted'⟩ := ih' places
      exact ⟨spots', places', permuted.trans permuted'⟩

section

variable [BEq α] [EquivBEq α]

theorem match?_rearranged {shape other : Shape} {tree : Tree α} {bindings : Bindings α}
    (rearranges : Rearranges shape other) (distinct : shape.Distinct)
    (distinctTree : tree.Distinct) (matched : shape.match? tree = some bindings) :
    ∃ bindings', other.match? tree = some bindings' ∧
      Tree.alikeEntries bindings bindings' = true := by
  obtain ⟨spots, places, bound⟩ := (bind?_iff_places distinct distinctTree).mp matched
  obtain ⟨spots', places', permuted⟩ := rearranges.places places
  obtain ⟨bindings', bound', same⟩ := Bindings.bindAll?_perm permuted bound
  have matched' :=
    (bind?_iff_places (rearranges.distinct distinct) distinctTree).mpr ⟨spots', places', bound'⟩
  exact ⟨bindings', matched', same⟩

/-- A shape matches if the placeholders have places and one assignment suits them all. The names are
then bound to the first of their places, and the order of fields does not matter. -/
theorem match?_finds_assignment {shape : Shape} {tree : Tree α} (distinct : shape.Distinct)
    (distinctTree : tree.Distinct) :
    ((∃ bindings, shape.match? tree = some bindings) ↔
      ∃ (assigned : String → Tree α) (spots : List (String × Tree α)),
        Places shape tree spots ∧ ∀ spot ∈ spots, (assigned spot.1 == spot.2) = true) ∧
      (∀ bindings, shape.match? tree = some bindings →
        Entries.Ordered bindings ∧
          (∀ name, name ∈ Entries.names bindings ↔ name ∈ shape.placeholders) ∧
            ∃ spots, Places shape tree spots ∧ Entries.names spots = shape.placeholders ∧
              ∀ name, Entries.lookup name bindings = Entries.lookup name spots) ∧
        ∀ other, Rearranges shape other →
          Option.Rel (fun bindings bindings' => Tree.alikeEntries bindings bindings' = true)
            (shape.match? tree) (other.match? tree) := by
  refine ⟨?_, ?_, ?_⟩
  · constructor
    · rintro ⟨bindings, matched⟩
      obtain ⟨spots, places, bound⟩ := (bind?_iff_places distinct distinctTree).mp matched
      obtain ⟨assigned, suits⟩ := Bindings.exists_bindAll?_iff.mp ⟨bindings, bound⟩
      exact ⟨assigned, spots, places, suits⟩
    · rintro ⟨assigned, spots, places, suits⟩
      obtain ⟨bindings, bound⟩ := Bindings.exists_bindAll?_iff.mpr ⟨assigned, suits⟩
      exact ⟨bindings, (bind?_iff_places distinct distinctTree).mpr ⟨spots, places, bound⟩⟩
  · intro bindings matched
    obtain ⟨spots, places, bound⟩ := (bind?_iff_places distinct distinctTree).mp matched
    have first name : Entries.lookup name bindings = Entries.lookup name spots :=
      Bindings.lookup_of_bindAll? bound name
    refine ⟨Bindings.ordered_of_bindAll? Entries.ordered_nil bound, fun name => ?_, spots, places,
      places.names_eq, first⟩
    rw [← places.names_eq, Entries.mem_names_congr (first name)]
  · intro other rearranges
    cases matched : shape.match? tree with
    | some bindings =>
        obtain ⟨bindings', matched', same⟩ :=
          match?_rearranged rearranges distinct distinctTree matched
        rw [matched']
        exact .some same
    | none =>
        cases matched' : other.match? tree with
        | none => exact .none
        | some bindings' =>
            obtain ⟨bindings, again, -⟩ := match?_rearranged rearranges.symm
              (rearranges.distinct distinct) distinctTree matched'
            cases matched.symm.trans again

end

theorem match?_finds_assignment_repeated_name :
    let shape := record [("a", simple "x"), ("b", list [simple "x", sequence "y"])]
    let other := record [("b", list [simple "x", sequence "y"]), ("a", simple "x")]
    let first : Tree String := .atom ⟨"1", 0, 1⟩
    let second : Tree String := .atom ⟨"1", 2, 3⟩
    let tree : Tree String := .record [("a", first), ("b", .list [second, .list []])]
    (shape.Distinct ∧ tree.Distinct ∧ Rearranges shape other) ∧
      shape.match? tree = some [("x", first), ("y", .list [])] ∧
        (∃ (assigned : String → Tree String) (spots : List (String × Tree String)),
          Places shape tree spots ∧ ∀ spot ∈ spots, (assigned spot.1 == spot.2) = true) ∧
          shape.placeholders = ["x", "x", "y"] ∧
            ∃ bindings, other.match? tree = some bindings ∧
              Tree.alikeEntries [("x", first), ("y", .list [])] bindings = true := by
  intro shape other first second tree
  have distinct : shape.Distinct := by
    simp [shape, Distinct, DistinctFields, DistinctItems, Entries.names]
  have distinctTree : tree.Distinct := by
    simp [tree, first, second, Tree.Distinct, Tree.DistinctEntries, Tree.DistinctItems,
      Entries.names]
  have rearranges : Rearranges shape other := .fields (.swap _ _ _)
  have matched : shape.match? tree = some [("x", first), ("y", .list [])] := by
    have ordered : Entries.insert "y" (.list []) [("x", first)] = [("x", first), ("y", .list [])] :=
      Entries.insert_of_gt _ _ [] (by decide)
    exact congrArg some ordered
  obtain ⟨complete, -, anyOrder⟩ := match?_finds_assignment distinct distinctTree
  have related := anyOrder other rearranges
  rw [matched] at related
  cases found : other.match? tree with
  | none => rw [found] at related; cases related
  | some bindings =>
      rw [found] at related
      cases related with
      | some same =>
          exact ⟨⟨distinct, distinctTree, rearranges⟩, matched, complete.mp ⟨_, matched⟩, rfl,
            bindings, rfl, same⟩

end PegText.Shape
