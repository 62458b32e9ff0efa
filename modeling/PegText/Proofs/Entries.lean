import PegText.Entries
import Mathlib.Data.List.Nodup
import Mathlib.Data.List.Sort
import Mathlib.Data.String.Basic

/-!
Sets of names and named entries in order: which names they hold, and that their order decides
them.
-/

namespace PegText

namespace Names

def Sorted (names : List String) : Prop :=
  names.Pairwise (· < ·)

@[simp]
theorem mem_insert {name other : String} {names : List String} :
    other ∈ insert name names ↔ other = name ∨ other ∈ names := by
  induction names with
  | nil => simp [insert]
  | cons first rest ih =>
      rw [insert]
      split
      · exact List.mem_cons
      · split
        next same => simp [same]
        next different =>
          rw [List.mem_cons, ih, List.mem_cons]
          tauto

theorem sorted_insert {name : String} {names : List String} (sorted : Sorted names) :
    Sorted (insert name names) := by
  induction names with
  | nil => exact List.pairwise_singleton _ _
  | cons first rest ih =>
      obtain ⟨below, sortedRest⟩ := List.pairwise_cons.mp sorted
      rw [insert]
      split
      next before =>
        refine List.pairwise_cons.mpr ⟨?_, sorted⟩
        intro other member
        rcases List.mem_cons.mp member with same | later
        · exact same ▸ before
        · exact String.lt_trans before (below other later)
      next notBefore =>
        split
        · exact sorted
        next different =>
          refine List.pairwise_cons.mpr ⟨?_, ih sortedRest⟩
          intro other member
          rcases mem_insert.mp member with same | later
          · have behind : first ≤ name := String.not_lt.mp notBefore
            exact same ▸ lt_of_le_of_ne behind (Ne.symm different)
          · exact below other later

@[simp]
theorem mem_union {other : String} {first second : List String} :
    other ∈ union first second ↔ other ∈ first ∨ other ∈ second := by
  induction second generalizing first with
  | nil => simp [union]
  | cons name rest ih =>
      have step : union first (name :: rest) = union (insert name first) rest := rfl
      rw [step, ih, mem_insert, List.mem_cons]
      tauto

theorem sorted_union {first second : List String} (sorted : Sorted first) :
    Sorted (union first second) := by
  induction second generalizing first with
  | nil => exact sorted
  | cons name rest ih => exact ih (sorted_insert sorted)

theorem Sorted.nodup {names : List String} (sorted : Sorted names) : names.Nodup :=
  sorted.imp String.ne_of_lt

/-- Two sets with the same members are kept as the same list. -/
theorem Sorted.eq_of_members {first second : List String} (sorted : Sorted first)
    (sorted' : Sorted second) (same : ∀ name, name ∈ first ↔ name ∈ second) :
    first = second := by
  have permuted : first.Perm second :=
    (List.perm_ext_iff_of_nodup sorted.nodup sorted'.nodup).mpr same
  exact permuted.eq_of_pairwise (fun _ _ _ _ before after => (String.lt_asymm before after).elim)
    sorted sorted'

theorem Sorted.sublist {first second : List String} (sorted : Sorted first)
    (sorted' : Sorted second) (among : first ⊆ second) : first.Sublist second :=
  List.sublist_of_subperm_of_pairwise (List.subperm_of_subset sorted.nodup among) sorted sorted'

end Names

namespace Entries

variable {α : Type}

theorem contains_iff {name : String} {entries : List (String × α)} :
    contains name entries = true ↔ name ∈ names entries := by
  simp [contains, names, List.any_eq_true]

@[simp]
theorem insert_nil (name : String) (value : α) : insert name value [] = [(name, value)] :=
  rfl

theorem insert_of_lt {name other : String} (value known : α) (rest : List (String × α))
    (before : name < other) :
    insert name value ((other, known) :: rest) = (name, value) :: (other, known) :: rest := by
  rw [insert, if_pos before]

theorem insert_of_gt {name other : String} (value known : α) (rest : List (String × α))
    (behind : other < name) :
    insert name value ((other, known) :: rest) = (other, known) :: insert name value rest := by
  rw [insert, if_neg (String.lt_asymm behind), if_neg (String.ne_of_lt behind).symm]

theorem length_names (entries : List (String × α)) : (names entries).length = entries.length :=
  List.length_map _

theorem names_perm {entries others : List (String × α)} (permuted : entries.Perm others) :
    (names entries).Perm (names others) :=
  permuted.map _

theorem names_insert (name : String) (value : α) (entries : List (String × α)) :
    names (insert name value entries) = Names.insert name (names entries) := by
  induction entries with
  | nil => rfl
  | cons entry rest ih =>
      have first : names (entry :: rest) = entry.1 :: names rest := rfl
      rw [insert, first, Names.insert]
      split
      · rfl
      · split
        next same =>
          rw [← same]
          rfl
        · exact congrArg (entry.1 :: ·) ih

theorem ordered_nil : Ordered ([] : List (String × α)) :=
  List.Pairwise.nil

theorem ordered_insert {name : String} {value : α} {entries : List (String × α)}
    (ordered : Ordered entries) : Ordered (insert name value entries) := by
  rw [Ordered, names_insert]
  exact Names.sorted_insert ordered

theorem lookup_cons (name other : String) (value : α) (rest : List (String × α)) :
    lookup name ((other, value) :: rest) = if name = other then some value else lookup name rest := by
  rw [lookup, List.lookup_cons, lookup]
  by_cases same : name = other
  · simp [same]
  · simp [same, beq_eq_false_iff_ne.mpr same]

theorem lookup_eq_none_iff {name : String} {entries : List (String × α)} :
    lookup name entries = none ↔ name ∉ names entries := by
  rw [lookup, List.lookup_eq_none_iff]
  simp only [bne_iff_ne, names, List.mem_map, not_exists, not_and]
  exact ⟨fun none entry member same => none entry member same.symm,
    fun none entry member same => none entry member same.symm⟩

theorem mem_of_lookup {name : String} {value : α} {entries : List (String × α)}
    (found : lookup name entries = some value) : (name, value) ∈ entries := by
  obtain ⟨before, behind, rfl, -⟩ := List.lookup_eq_some_iff.mp found
  exact List.mem_append_right before List.mem_cons_self

theorem mem_names_of_lookup {name : String} {value : α} {entries : List (String × α)}
    (found : lookup name entries = some value) : name ∈ names entries :=
  List.mem_map_of_mem (mem_of_lookup found)

theorem mem_names_congr {name : String} {entries others : List (String × α)}
    (same : lookup name entries = lookup name others) :
    name ∈ names entries ↔ name ∈ names others := by
  rw [← not_iff_not, ← lookup_eq_none_iff, ← lookup_eq_none_iff, same]

theorem lookup_insert (name other : String) (value : α) (entries : List (String × α)) :
    lookup other (insert name value entries) =
      if other = name then some value else lookup other entries := by
  induction entries with
  | nil => exact lookup_cons other name value []
  | cons entry rest ih =>
      rw [insert]
      split
      · rw [lookup_cons]
      · split
        next same =>
          rw [lookup_cons, lookup_cons, ← same]
          split <;> rfl
        next different =>
          rw [lookup_cons, ih, lookup_cons]
          by_cases first : other = entry.1
          · have distinct : other ≠ name := fun same => different (same.symm.trans first)
            rw [if_pos first, if_neg distinct, if_pos first]
          · rw [if_neg first, if_neg first]

theorem insert_perm {name : String} {value : α} {entries : List (String × α)}
    (absent : name ∉ names entries) :
    (insert name value entries).Perm ((name, value) :: entries) := by
  induction entries with
  | nil => exact .refl _
  | cons entry rest ih =>
      rw [names, List.map_cons, List.mem_cons, not_or] at absent
      rw [insert]
      split
      · exact .refl _
      · rw [if_neg absent.1]
        exact ((ih absent.2).cons entry).trans (.swap _ _ _)

end Entries

end PegText
