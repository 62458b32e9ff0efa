import PegText.Parse.Output
import PegText.Proofs.Entries

/-!
What becomes of captures when yields are put together: as long as no name comes twice, merging
succeeds and keeps every capture.
-/

namespace PegText

def Capture.content : Capture → List (String × Capture)
  | tagged name value => [(name, value)]
  | record entries => entries
  | atom _ | list _ => []

namespace Output

def names : Output → List String
  | fields entries => Entries.names entries
  | text _ | list _ => []

def content : Output → List (String × Capture)
  | text _ => []
  | fields entries => entries
  | list items => items.flatMap Capture.content

def isList : Output → Bool
  | list _ => true
  | _ => false

@[simp]
theorem content_toCapture_fields (entries : List (String × Capture)) :
    (fields entries).toCapture.content = entries := by
  match entries with
  | [] => rfl
  | [_] => rfl
  | _ :: _ :: _ => rfl

theorem mergeFields_perm {entries more : List (String × Capture)}
    (distinct : (Entries.names entries ++ Entries.names more).Nodup) :
    ∃ merged, mergeFields entries more = .ok merged ∧ merged.Perm (entries ++ more) := by
  induction more generalizing entries with
  | nil => exact ⟨entries, rfl, by rw [List.append_nil]⟩
  | cons entry rest ih =>
      have moved : (entry.1 :: (Entries.names entries ++ Entries.names rest)).Nodup :=
        List.perm_middle.nodup_iff.mp distinct
      obtain ⟨new, distinctLater⟩ := List.nodup_cons.mp moved
      have absent : entry.1 ∉ Entries.names entries := fun known =>
        new (List.mem_append_left _ known)
      have inserted := @Entries.insert_perm _ _ entry.2 _ absent
      have names := (inserted.map Prod.fst).append_right (Entries.names rest)
      obtain ⟨merged, done, perm⟩ := ih (names.nodup_iff.mpr moved)
      refine ⟨merged, ?_, ?_⟩
      · rw [mergeFields, if_neg (mt Entries.contains_iff.mp absent), done]
      · calc
          merged.Perm (Entries.insert entry.1 entry.2 entries ++ rest) := perm
          List.Perm _ (entry :: (entries ++ rest)) := inserted.append_right rest
          List.Perm _ (entries ++ entry :: rest) := List.perm_middle.symm

inductive Merges : Output → Output → Output → Prop
  | textInFront {slice back} : Merges (text slice) back back
  | textBehind {front slice} : Merges front (text slice) front
  | fields {entries more merged} : mergeFields entries more = .ok merged →
      Merges (fields entries) (fields more) (fields merged)
  | lists {items more} : Merges (list items) (list more) (list (items ++ more))
  | listFields {items entries} :
      Merges (list items) (fields entries) (list (items ++ [(fields entries).toCapture]))
  | fieldsList {entries items} :
      Merges (fields entries) (list items) (list ((fields entries).toCapture :: items))

theorem merges_of_merge {front back merged : Output} (done : merge front back = .ok merged) :
    Merges front back merged := by
  match front, back with
  | text _, _ =>
      cases done
      exact .textInFront
  | fields _, text _ | list _, text _ =>
      cases done
      exact .textBehind
  | fields entries, fields more =>
      rw [merge] at done
      cases joined : mergeFields entries more with
      | error name => simp [joined, Except.map] at done
      | ok together =>
          simp only [joined, Except.map, Except.ok.injEq] at done
          exact done ▸ .fields joined
  | list _, list _ =>
      cases done
      exact .lists
  | list _, fields _ =>
      cases done
      exact .listFields
  | fields _, list _ =>
      cases done
      exact .fieldsList

theorem exists_merge_of_mergeAll {first next output : Output} {rest : List Output}
    (done : mergeAll first (next :: rest) = .ok output) :
    ∃ merged, merge first next = .ok merged ∧ mergeAll merged rest = .ok output := by
  rw [mergeAll] at done
  split at done
  next merged joined => exact ⟨merged, joined, done⟩
  · cases done

structure Merged (first second merged : Output) : Prop where
  names : merged.names = [] ∨ merged.names.Perm (first.names ++ second.names)
  content : merged.content.Perm (first.content ++ second.content)
  isList : merged.isList = (first.isList || second.isList)
  isText : merged.isText = (first.isText && second.isText)

theorem merge_merged {first second : Output} (distinct : (first.names ++ second.names).Nodup) :
    ∃ merged, merge first second = .ok merged ∧ Merged first second merged := by
  match first, second with
  | text slice, second =>
      exact ⟨second, rfl, .inr (.refl _), .refl _, rfl, rfl⟩
  | fields entries, text slice | list items, text slice =>
      refine ⟨_, rfl, .inr ?_, ?_, rfl, rfl⟩
      · exact .of_eq (List.append_nil _).symm
      · exact .of_eq (List.append_nil _).symm
  | fields entries, fields more =>
      obtain ⟨merged, done, perm⟩ := mergeFields_perm distinct
      refine ⟨fields merged, ?_, .inr ?_, perm, rfl, rfl⟩
      · rw [merge, done]
        rfl
      · exact (perm.map Prod.fst).trans (.of_eq List.map_append)
  | list items, list more =>
      exact ⟨_, rfl, .inl rfl, .of_eq List.flatMap_append, rfl, rfl⟩
  | list items, fields entries =>
      refine ⟨_, rfl, .inl rfl, ?_, rfl, rfl⟩
      simp [content]
  | fields entries, list items =>
      refine ⟨_, rfl, .inl rfl, ?_, rfl, rfl⟩
      simp [content]

structure Sequenced (outputs : List Output) (output : Output) : Prop where
  names : output.names ⊆ outputs.flatMap names
  distinct : output.names.Nodup
  content : output.content.Perm (outputs.flatMap content)
  isList : output.isList = outputs.any isList
  isText : output.isText = outputs.all isText

theorem mergeAll_sequenced {first : Output} {rest : List Output}
    (distinct : (first.names ++ rest.flatMap names).Nodup) :
    ∃ output, mergeAll first rest = .ok output ∧ Sequenced (first :: rest) output := by
  induction rest generalizing first with
  | nil =>
      rw [List.flatMap_nil, List.append_nil] at distinct
      exact ⟨first, rfl, by simp, distinct, by simp, by simp, by simp⟩
  | cons next rest ih =>
      rw [List.flatMap_cons, ← List.append_assoc] at distinct
      obtain ⟨merged, done, kept⟩ := merge_merged distinct.of_append_left
      have distinctLater : (merged.names ++ rest.flatMap names).Nodup := by
        rcases kept.names with none | both
        · rw [none]
          exact distinct.of_append_right
        · exact (both.append_right _).nodup_iff.mpr distinct
      obtain ⟨output, ended, later⟩ := ih distinctLater
      refine ⟨output, ?_, ?_, later.distinct, ?_, ?_, ?_⟩
      · rw [mergeAll, done]
        exact ended
      · intro name member
        have found := later.names member
        simp only [List.flatMap_cons, List.mem_append] at found ⊢
        rcases found with early | late
        · rcases kept.names with none | both
          · rw [none] at early
            cases early
          · have either := both.mem_iff.mp early
            rw [List.mem_append] at either
            tauto
        · exact .inr (.inr late)
      · refine later.content.trans ?_
        simp only [List.flatMap_cons, ← List.append_assoc]
        exact kept.content.append_right _
      · rw [later.isList, List.any_cons, kept.isList, List.any_cons, List.any_cons, Bool.or_assoc]
      · rw [later.isText, List.all_cons, kept.isText, List.all_cons, List.all_cons, Bool.and_assoc]

theorem flatMap_filter_isText {α : Type} {of : Output → List α} (outputs : List Output)
    (plain : ∀ slice, of (text slice) = []) :
    (outputs.filter (!·.isText)).flatMap of = outputs.flatMap of := by
  induction outputs with
  | nil => rfl
  | cons output outputs ih =>
      cases output with
      | text slice => simpa [isText, plain] using ih
      | fields | list => simpa [isText] using ih

/-- If no name comes twice, the yields of the parts make up the yield of their sequence, and
every capture is still there. -/
theorem ofSequence_sequenced (start stop : Cursor) {outputs : List Output}
    (distinct : (outputs.flatMap names).Nodup) :
    ∃ output, ofSequence start stop outputs = .ok output ∧ Sequenced outputs output := by
  rw [← flatMap_filter_isText outputs fun _ => rfl] at distinct
  have shown := @flatMap_filter_isText _ names outputs fun _ => rfl
  have held := @flatMap_filter_isText _ content outputs fun _ => rfl
  have lists : (outputs.filter (!·.isText)).any isList = outputs.any isList := by
    rw [List.any_filter]
    congr 1
    funext output
    cases output <;> rfl
  have texts : (outputs.filter (!·.isText)).isEmpty = outputs.all isText := by
    rw [Bool.eq_iff_iff]
    simp [List.filter_eq_nil_iff]
  rw [ofSequence]
  split
  next none =>
    rw [none] at shown held lists texts
    exact ⟨_, rfl, by simp [Output.names], .nil, .of_eq held, lists, texts⟩
  next first rest some =>
    rw [some] at distinct
    obtain ⟨output, done, kept⟩ := mergeAll_sequenced distinct
    have structured : first.isText = false := by
      have member : first ∈ outputs.filter (!·.isText) := some ▸ List.mem_cons_self
      simpa using (List.mem_filter.mp member).2
    rw [← some] at kept
    refine ⟨output, done, ?_, kept.distinct, held ▸ kept.content, lists ▸ kept.isList, ?_⟩
    · exact shown ▸ kept.names
    · rw [kept.isText, ← texts, some]
      simp [structured]

theorem isList_ofRounds (start stop : Cursor) (outputs : List Output) :
    (ofRounds true start stop outputs).isList = true := by
  simp [ofRounds, isList]

theorem isText_ofRounds {start stop : Cursor} {outputs : List Output}
    (plain : ∀ output ∈ outputs, output.isText = true) :
    (ofRounds false start stop outputs).isText = true := by
  have all : outputs.all isText = true := List.all_eq_true.mpr plain
  rw [ofRounds, all]
  rfl

theorem names_ofRounds (structured : Bool) (start stop : Cursor) (outputs : List Output) :
    (ofRounds structured start stop outputs).names = [] := by
  rw [ofRounds]
  split <;> rfl

end Output

end PegText
