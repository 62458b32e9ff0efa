import PegText.Tree

/-!
Trees that differ in the spans of their atoms only are taken for equal. This is an equivalence if
the equality of the values in the trees is one.
-/

namespace PegText.Tree

variable {α : Type} [BEq α]

inductive Likeness : Tree α → Tree α → Prop
  | atom {first second} : first.text = second.text → Likeness (.atom first) (.atom second)
  | record {entries others} : alikeEntries entries others = true →
      Likeness (.record entries) (.record others)
  | list {items others} : alikeItems items others = true → Likeness (.list items) (.list others)
  | value {content other} : (content == other) = true → Likeness (.value content) (.value other)

theorem likeness_of_alike {tree other : Tree α} (same : tree.alike other = true) :
    Likeness tree other := by
  rw [alike.eq_def] at same
  split at same
  · exact .atom (beq_iff_eq.mp same)
  · exact .record same
  · exact .list same
  · exact .value same
  · cases same

theorem alike_atom {first second : Slice} :
    (atom first : Tree α).alike (.atom second) = true ↔ first.text = second.text := by
  rw [alike]
  exact beq_iff_eq (a := first.text)

theorem alikeEntries_cons {name name' : String} {tree tree' : Tree α}
    {rest rest' : List (String × Tree α)} :
    alikeEntries ((name, tree) :: rest) ((name', tree') :: rest') = true ↔
      name = name' ∧ tree.alike tree' = true ∧ alikeEntries rest rest' = true := by
  rw [alikeEntries, Bool.and_eq_true, Bool.and_eq_true, beq_iff_eq, and_assoc]

theorem alikeItems_cons {tree tree' : Tree α} {rest rest' : List (Tree α)} :
    alikeItems (tree :: rest) (tree' :: rest') = true ↔
      tree.alike tree' = true ∧ alikeItems rest rest' = true := by
  rw [alikeItems, Bool.and_eq_true]

mutual

theorem alike_refl [ReflBEq α] (tree : Tree α) : tree.alike tree = true := by
  match tree with
  | .atom slice => exact beq_self_eq_true slice.text
  | .value content => exact beq_self_eq_true content
  | .record entries => exact alikeEntries_refl entries
  | .list items => exact alikeItems_refl items

theorem alikeEntries_refl [ReflBEq α] (entries : List (String × Tree α)) :
    alikeEntries entries entries = true := by
  match entries with
  | [] => rfl
  | (name, tree) :: rest =>
      exact alikeEntries_cons.mpr ⟨rfl, alike_refl tree, alikeEntries_refl rest⟩

theorem alikeItems_refl [ReflBEq α] (items : List (Tree α)) : alikeItems items items = true := by
  match items with
  | [] => rfl
  | tree :: rest => exact alikeItems_cons.mpr ⟨alike_refl tree, alikeItems_refl rest⟩

end

mutual

theorem alike_symm [PartialEquivBEq α] {tree other : Tree α} (same : tree.alike other = true) :
    other.alike tree = true := by
  match tree, other, likeness_of_alike same with
  | .atom _, .atom _, .atom sameText => exact alike_atom.mpr sameText.symm
  | .value _, .value _, .value sameContent => exact BEq.symm sameContent
  | .record _, .record _, .record sameEntries => exact alikeEntries_symm sameEntries
  | .list _, .list _, .list sameItems => exact alikeItems_symm sameItems

theorem alikeEntries_symm [PartialEquivBEq α] {entries others : List (String × Tree α)}
    (same : alikeEntries entries others = true) : alikeEntries others entries = true := by
  match entries, others with
  | [], [] => rfl
  | [], _ :: _ | _ :: _, [] => cases same
  | (_, tree) :: rest, _ :: _ =>
      obtain ⟨sameName, sameTree, sameRest⟩ := alikeEntries_cons.mp same
      exact alikeEntries_cons.mpr ⟨sameName.symm, alike_symm sameTree, alikeEntries_symm sameRest⟩

theorem alikeItems_symm [PartialEquivBEq α] {items others : List (Tree α)}
    (same : alikeItems items others = true) : alikeItems others items = true := by
  match items, others with
  | [], [] => rfl
  | [], _ :: _ | _ :: _, [] => cases same
  | tree :: rest, _ :: _ =>
      obtain ⟨sameTree, sameRest⟩ := alikeItems_cons.mp same
      exact alikeItems_cons.mpr ⟨alike_symm sameTree, alikeItems_symm sameRest⟩

end

mutual

theorem alike_trans [PartialEquivBEq α] {tree between other : Tree α}
    (same : tree.alike between = true) (more : between.alike other = true) :
    tree.alike other = true := by
  match tree, between, other, likeness_of_alike same, likeness_of_alike more with
  | .atom _, .atom _, .atom _, .atom sameText, .atom moreText =>
      exact alike_atom.mpr (sameText.trans moreText)
  | .value _, .value _, .value _, .value sameContent, .value moreContent =>
      exact BEq.trans sameContent moreContent
  | .record _, .record _, .record _, .record sameEntries, .record moreEntries =>
      exact alikeEntries_trans sameEntries moreEntries
  | .list _, .list _, .list _, .list sameItems, .list moreItems =>
      exact alikeItems_trans sameItems moreItems

theorem alikeEntries_trans [PartialEquivBEq α] {entries between others : List (String × Tree α)}
    (same : alikeEntries entries between = true) (more : alikeEntries between others = true) :
    alikeEntries entries others = true := by
  match entries, between, others with
  | [], [], [] => rfl
  | [], _ :: _, _ | _ :: _, [], _ => cases same
  | _, [], _ :: _ | _, _ :: _, [] => cases more
  | (_, tree) :: rest, _ :: _, _ :: _ =>
      obtain ⟨sameName, sameTree, sameRest⟩ := alikeEntries_cons.mp same
      obtain ⟨moreName, moreTree, moreRest⟩ := alikeEntries_cons.mp more
      exact alikeEntries_cons.mpr ⟨sameName.trans moreName, alike_trans sameTree moreTree,
        alikeEntries_trans sameRest moreRest⟩

theorem alikeItems_trans [PartialEquivBEq α] {items between others : List (Tree α)}
    (same : alikeItems items between = true) (more : alikeItems between others = true) :
    alikeItems items others = true := by
  match items, between, others with
  | [], [], [] => rfl
  | [], _ :: _, _ | _ :: _, [], _ => cases same
  | _, [], _ :: _ | _, _ :: _, [] => cases more
  | tree :: rest, _ :: _, _ :: _ =>
      obtain ⟨sameTree, sameRest⟩ := alikeItems_cons.mp same
      obtain ⟨moreTree, moreRest⟩ := alikeItems_cons.mp more
      exact alikeItems_cons.mpr ⟨alike_trans sameTree moreTree, alikeItems_trans sameRest moreRest⟩

end

instance [EquivBEq α] : EquivBEq (Tree α) where
  rfl := alike_refl _
  symm := alike_symm
  trans := alike_trans

end PegText.Tree
