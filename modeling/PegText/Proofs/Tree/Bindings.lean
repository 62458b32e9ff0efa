import PegText.Proofs.Entries
import PegText.Proofs.Tree.Alike
import PegText.Tree.Bindings

/-!
Binding one name after the other. It succeeds if there is one tree for each name that is equal to
all the trees the name is bound to, and each name keeps the first of its trees.
-/

namespace PegText.Bindings

variable {α : Type} [BEq α]

theorem bind?_iff {name : String} {tree : Tree α} {bindings after : Bindings α} :
    bindings.bind? name tree = some after ↔
      (∃ bound, Entries.lookup name bindings = some bound ∧ (bound == tree) = true ∧
        bindings = after) ∨
        (Entries.lookup name bindings = none ∧ Entries.insert name tree bindings = after) := by
  rw [bind?]
  cases Entries.lookup name bindings with
  | none => simp
  | some bound => simp

def bindAll? (spots : List (String × Tree α)) (bindings : Bindings α) : Option (Bindings α) :=
  spots.foldlM (fun bindings spot => bindings.bind? spot.1 spot.2) bindings

theorem bindAll?_cons {spot : String × Tree α} {rest : List (String × Tree α)}
    {bindings after : Bindings α} :
    bindings.bindAll? (spot :: rest) = some after ↔
      ∃ between, bindings.bind? spot.1 spot.2 = some between ∧
        between.bindAll? rest = some after := by
  rw [bindAll?, List.foldlM_cons]
  exact Option.bind_eq_some_iff

theorem bindAll?_append {spots more : List (String × Tree α)} {bindings after : Bindings α} :
    bindings.bindAll? (spots ++ more) = some after ↔
      ∃ between, bindings.bindAll? spots = some between ∧
        between.bindAll? more = some after := by
  rw [bindAll?, List.foldlM_append]
  exact Option.bind_eq_some_iff

theorem bindAll?_singleton {name : String} {tree : Tree α} {bindings : Bindings α} :
    bindings.bindAll? [(name, tree)] = bindings.bind? name tree := by
  rw [bindAll?, List.foldlM_cons]
  exact bind_pure _

theorem lookup_of_bind? {name other : String} {tree : Tree α} {bindings after : Bindings α}
    (bound : bindings.bind? name tree = some after) :
    Entries.lookup other after =
      (Entries.lookup other bindings).or (Entries.lookup other [(name, tree)]) := by
  rw [Entries.lookup_cons]
  rcases bind?_iff.mp bound with ⟨known, found, -, rfl⟩ | ⟨fresh, rfl⟩
  · by_cases same : other = name
    · rw [same, found, Option.some_or]
    · rw [if_neg same]
      exact Option.or_none.symm
  · rw [Entries.lookup_insert]
    by_cases same : other = name
    · rw [if_pos same, if_pos same, same, fresh, Option.none_or]
    · rw [if_neg same, if_neg same]
      exact Option.or_none.symm

/-- A name that was not bound before is bound to the first tree it stands with. -/
theorem lookup_of_bindAll? {spots : List (String × Tree α)} {bindings after : Bindings α}
    (bound : bindings.bindAll? spots = some after) (name : String) :
    Entries.lookup name after =
      (Entries.lookup name bindings).or (Entries.lookup name spots) := by
  induction spots generalizing bindings with
  | nil =>
      cases bound
      exact Option.or_none.symm
  | cons spot rest ih =>
      obtain ⟨between, first, later⟩ := bindAll?_cons.mp bound
      have split : Entries.lookup name (spot :: rest) =
          (Entries.lookup name [spot]).or (Entries.lookup name rest) := by
        rw [Entries.lookup_cons, Entries.lookup_cons]
        split <;> rfl
      rw [ih later, lookup_of_bind? first, Option.or_assoc, split]

theorem ordered_of_bindAll? {spots : List (String × Tree α)} {bindings after : Bindings α}
    (ordered : Entries.Ordered bindings) (bound : bindings.bindAll? spots = some after) :
    Entries.Ordered after := by
  induction spots generalizing bindings with
  | nil =>
      cases bound
      exact ordered
  | cons spot rest ih =>
      obtain ⟨between, first, later⟩ := bindAll?_cons.mp bound
      rcases bind?_iff.mp first with ⟨_, -, -, rfl⟩ | ⟨-, rfl⟩
      · exact ih ordered later
      · exact ih (Entries.ordered_insert ordered) later

theorem alikeEntries_of_lookup {bindings others : Bindings α}
    (distinct : (Entries.names bindings).Nodup)
    (sameNames : Entries.names bindings = Entries.names others)
    (same : ∀ name tree other, Entries.lookup name bindings = some tree →
      Entries.lookup name others = some other → (tree == other) = true) :
    Tree.alikeEntries bindings others = true := by
  induction bindings generalizing others with
  | nil =>
      cases others with
      | nil => rfl
      | cons => cases sameNames
  | cons entry rest ih =>
      cases others with
      | nil => cases sameNames
      | cons other others =>
          obtain ⟨sameName, sameRest⟩ := List.cons.inj sameNames
          obtain ⟨absent, distinctRest⟩ := List.nodup_cons.mp distinct
          refine Tree.alikeEntries_cons.mpr ⟨sameName, ?_, ih distinctRest sameRest ?_⟩
          · refine same entry.1 entry.2 other.2 ?_ ?_
            · rw [Entries.lookup_cons, if_pos rfl]
            · rw [Entries.lookup_cons, if_pos sameName]
          · intro name tree tree' found found'
            have later : name ≠ entry.1 := by
              rintro rfl
              exact absent (Entries.mem_names_of_lookup found)
            have later' : name ≠ other.1 := fun here => later (here.trans sameName.symm)
            refine same name tree tree' ?_ ?_
            · rw [Entries.lookup_cons, if_neg later, found]
            · rw [Entries.lookup_cons, if_neg later', found']

def Suits (assigned : String → Tree α) (spots : List (String × Tree α)) : Prop :=
  ∀ spot ∈ spots, (assigned spot.1 == spot.2) = true

theorem Suits.lookup {assigned : String → Tree α} {bindings : Bindings α} {name : String}
    {bound : Tree α} (suits : Suits assigned bindings)
    (found : Entries.lookup name bindings = some bound) : (assigned name == bound) = true :=
  suits _ (Entries.mem_of_lookup found)

variable [EquivBEq α]

theorem bind?_of_suits {assigned : String → Tree α} {name : String} {tree : Tree α}
    {bindings : Bindings α} (kept : Suits assigned bindings)
    (suits : (assigned name == tree) = true) :
    ∃ after, bindings.bind? name tree = some after ∧ Suits assigned after := by
  cases found : Entries.lookup name bindings with
  | none =>
      refine ⟨_, bind?_iff.mpr (.inr ⟨found, rfl⟩), fun spot member => ?_⟩
      have permuted : (Entries.insert name tree bindings).Perm ((name, tree) :: bindings) :=
        Entries.insert_perm (Entries.lookup_eq_none_iff.mp found)
      rcases List.mem_cons.mp (permuted.mem_iff.mp member) with rfl | before
      · exact suits
      · exact kept spot before
  | some bound =>
      have same : (bound == tree) = true := BEq.trans (BEq.symm (kept.lookup found)) suits
      exact ⟨bindings, bind?_iff.mpr (.inl ⟨bound, found, same, rfl⟩), kept⟩

theorem bindAll?_of_suits {assigned : String → Tree α} {spots : List (String × Tree α)}
    {bindings : Bindings α} (kept : Suits assigned bindings) (suits : Suits assigned spots) :
    ∃ after, bindings.bindAll? spots = some after := by
  induction spots generalizing bindings with
  | nil => exact ⟨bindings, rfl⟩
  | cons spot rest ih =>
      obtain ⟨suitsFirst, suitsRest⟩ := List.forall_mem_cons.mp suits
      obtain ⟨between, first, keptBetween⟩ := bind?_of_suits kept suitsFirst
      obtain ⟨after, later⟩ := ih keptBetween suitsRest
      exact ⟨after, bindAll?_cons.mpr ⟨between, first, later⟩⟩

/-- Each of the trees is equal to the one that its name ends up with. -/
theorem alike_of_bindAll? {spots : List (String × Tree α)} {bindings after : Bindings α}
    (bound : bindings.bindAll? spots = some after) :
    ∀ spot ∈ spots, ∃ tree, Entries.lookup spot.1 after = some tree ∧
      (tree == spot.2) = true := by
  induction spots generalizing bindings with
  | nil => exact fun _ member => (List.not_mem_nil member).elim
  | cons spot rest ih =>
      obtain ⟨between, first, later⟩ := bindAll?_cons.mp bound
      refine List.forall_mem_cons.mpr ⟨?_, ih later⟩
      rcases bind?_iff.mp first with ⟨known, found, same, rfl⟩ | ⟨-, rfl⟩
      · refine ⟨known, ?_, same⟩
        rw [lookup_of_bindAll? later, found, Option.some_or]
      · refine ⟨spot.2, ?_, BEq.refl _⟩
        rw [lookup_of_bindAll? later, Entries.lookup_insert, if_pos rfl, Option.some_or]

/-- The names can be bound one after the other exactly if one assignment suits all their trees. -/
theorem exists_bindAll?_iff {spots : List (String × Tree α)} :
    (∃ after, bindAll? spots [] = some after) ↔ ∃ assigned, Suits assigned spots := by
  constructor
  · rintro ⟨after, bound⟩
    refine ⟨fun name => (Entries.lookup name after).getD (.list []), fun spot member => ?_⟩
    obtain ⟨tree, found, same⟩ := alike_of_bindAll? bound spot member
    simpa only [found, Option.getD_some] using same
  · rintro ⟨assigned, suits⟩
    exact bindAll?_of_suits (fun _ member => (List.not_mem_nil member).elim) suits

/-- The order in which the names are bound decides which of equal trees they keep, and nothing
else. -/
theorem bindAll?_perm {spots others : List (String × Tree α)} (permuted : spots.Perm others)
    {bindings : Bindings α} (bound : bindAll? spots [] = some bindings) :
    ∃ bindings', bindAll? others [] = some bindings' ∧
      Tree.alikeEntries bindings bindings' = true := by
  obtain ⟨assigned, suits⟩ := exists_bindAll?_iff.mp ⟨bindings, bound⟩
  have suitsOthers : Suits assigned others :=
    fun spot member => suits spot (permuted.mem_iff.mpr member)
  obtain ⟨bindings', bound'⟩ := exists_bindAll?_iff.mpr ⟨assigned, suitsOthers⟩
  have ordered : Entries.Ordered bindings := ordered_of_bindAll? Entries.ordered_nil bound
  have ordered' : Entries.Ordered bindings' := ordered_of_bindAll? Entries.ordered_nil bound'
  have first name : Entries.lookup name bindings = Entries.lookup name spots :=
    lookup_of_bindAll? bound name
  have first' name : Entries.lookup name bindings' = Entries.lookup name others :=
    lookup_of_bindAll? bound' name
  refine ⟨bindings', bound', alikeEntries_of_lookup (Names.Sorted.nodup ordered) ?_ ?_⟩
  · refine Names.Sorted.eq_of_members ordered ordered' fun name => ?_
    rw [Entries.mem_names_congr (first name), Entries.mem_names_congr (first' name)]
    exact (Entries.names_perm permuted).mem_iff
  · intro name tree tree' found found'
    obtain ⟨kept, found'', same⟩ := alike_of_bindAll? bound (name, tree')
      (permuted.mem_iff.mpr (Entries.mem_of_lookup ((first' name).symm.trans found')))
    cases found.symm.trans found''
    exact same

end PegText.Bindings
