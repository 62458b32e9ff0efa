import PegText.Proofs.Text.Legible
import PegText.Text.Quoted

/-!
Text between quotation marks can be read in one way only: no escaped character begins with the mark,
and none is the beginning of another one.
-/

namespace PegText.Quoted

open PegText.Language (run_unique)

inductive Escaped (letters : List (Char × Char)) (hidden : Char → Prop) (code : Char → List Char)
    (c : Char) : List Char → Prop
  | letter {letter} : (c, letter) ∈ letters → Escaped letters hidden code c ['\\', letter]
  | code : hidden c → Escaped letters hidden code c ('\\' :: 'u' :: code c)
  | plain : c ≠ '\\' → c ≠ '"' → Escaped letters hidden code c [c]

structure Escaping (escape : Char → List Char) : Prop where
  unmarked : ∀ c, ∃ first rest, escape c = first :: rest ∧ first ≠ '"'
  unique : ∀ ⦃c d rest behind⦄, escape c ++ rest = escape d ++ behind → c = d ∧ rest = behind

namespace Escaping

variable {escape : Char → List Char} {letters : List (Char × Char)} {hidden : Char → Prop}
  {code : Char → List Char}

theorem of_escaped
    (distinct : ∀ one ∈ letters, one.2 ≠ 'u' ∧ ∀ two ∈ letters, one.2 = two.2 → one.1 = two.1)
    (coded : ∀ ⦃c d rest behind⦄, hidden c → hidden d → code c ++ rest = code d ++ behind →
      c = d ∧ rest = behind)
    (escaped : ∀ c, Escaped letters hidden code c (escape c)) : Escaping escape where
  unmarked c := by
    have one := escaped c
    generalize escape c = written at one
    cases one with
    | letter | code => exact ⟨_, _, rfl, by decide⟩
    | plain _ unmarked => exact ⟨_, _, rfl, unmarked⟩
  unique c d rest behind same := by
    have one := escaped c
    have two := escaped d
    generalize escape c = written at one same
    generalize escape d = written' at two same
    cases one with
    | letter among =>
        cases two with
        | letter among' =>
            obtain ⟨sameLetter, sameRest⟩ := List.cons.inj (List.cons.inj same).2
            exact ⟨(distinct _ among).2 _ among' sameLetter, sameRest⟩
        | code => exact ((distinct _ among).1 (List.cons.inj (List.cons.inj same).2).1).elim
        | plain backslash => exact (backslash (List.cons.inj same).1.symm).elim
    | code hiddenOne =>
        cases two with
        | letter among =>
            exact ((distinct _ among).1 (List.cons.inj (List.cons.inj same).2).1.symm).elim
        | code hiddenTwo =>
            exact coded hiddenOne hiddenTwo (List.cons.inj (List.cons.inj same).2).2
        | plain backslash => exact (backslash (List.cons.inj same).1.symm).elim
    | plain backslash =>
        cases two with
        | letter | code => exact (backslash (List.cons.inj same).1).elim
        | plain => exact List.cons.inj same

theorem flatMap_unique (escaping : Escaping escape) {text other rest behind : List Char}
    (same : text.flatMap escape ++ '"' :: rest = other.flatMap escape ++ '"' :: behind) :
    text = other ∧ rest = behind := by
  have notMarked {c : Char} {tail behind : List Char} : escape c ++ tail ≠ '"' :: behind := by
    obtain ⟨first, more, written, unmarked⟩ := escaping.unmarked c
    rw [written]
    exact fun same => unmarked (List.cons.inj same).1
  induction text generalizing other with
  | nil =>
      cases other with
      | nil => exact ⟨rfl, (List.cons.inj same).2⟩
      | cons d other =>
          rw [List.flatMap_cons, List.append_assoc] at same
          exact (notMarked same.symm).elim
  | cons c text ih =>
      cases other with
      | nil =>
          rw [List.flatMap_cons, List.append_assoc] at same
          exact (notMarked same).elim
      | cons d other =>
          rw [List.flatMap_cons, List.flatMap_cons, List.append_assoc, List.append_assoc] at same
          obtain ⟨rfl, sameMore⟩ := escaping.unique same
          obtain ⟨rfl, sameRest⟩ := ih sameMore
          exact ⟨rfl, sameRest⟩

theorem legible (escaping : Escaping escape) (text : String) :
    Legible (fun text : String => '"' :: (text.toList.flatMap escape ++ ['"'])) id text := by
  intro other rest behind _ _ same
  simp only [List.cons_append, List.append_assoc, List.nil_append, List.cons.injEq] at same
  obtain ⟨sameText, sameRest⟩ := escaping.flatMap_unique same.2
  exact ⟨String.toList_inj.mp sameText, sameRest⟩

end Escaping

theorem digitChar_inj : ∀ one < 16, ∀ two < 16,
    Nat.digitChar one = Nat.digitChar two → one = two := by
  decide

theorem mem_toDigits {number : Nat} {c : Char} (member : c ∈ Nat.toDigits 16 number) :
    ∃ digit < 16, c = Nat.digitChar digit := by
  induction number using Nat.strongRecOn with
  | ind number ih =>
      rw [Nat.toDigits_eq_if (by decide)] at member
      split at member
      next small => exact ⟨number, small, List.mem_singleton.mp member⟩
      next =>
        rcases List.mem_append.mp member with front | last
        · exact ih (number / 16) (by omega) front
        · exact ⟨number % 16, by omega, List.mem_singleton.mp last⟩

theorem toDigits_inj {number other : Nat}
    (same : Nat.toDigits 16 number = Nat.toDigits 16 other) : number = other := by
  have single {front : Nat} {last c : Char} : [c] ≠ Nat.toDigits 16 front ++ [last] := by
    intro same
    have joined : [] ++ [c] = Nat.toDigits 16 front ++ [last] := same
    exact Nat.toDigits_ne_nil (List.append_inj' joined rfl).1.symm
  induction number using Nat.strongRecOn generalizing other with
  | ind number ih =>
      rw [Nat.toDigits_eq_if (by decide), @Nat.toDigits_eq_if 16 other (by decide)] at same
      split at same <;> split at same
      next small small' => exact digitChar_inj _ small _ small' (List.singleton_inj.mp same)
      next => exact (single same).elim
      next => exact (single same.symm).elim
      next =>
        obtain ⟨front, last⟩ := List.append_inj' same rfl
        have sameFront := ih (number / 16) (by omega) front
        have sameLast := digitChar_inj _ (Nat.mod_lt _ (by decide)) _ (Nat.mod_lt _ (by decide))
          (List.singleton_inj.mp last)
        omega

theorem codePoint_unique {c d : Char} {rest behind : List Char}
    (same : codePoint c ++ rest = codePoint d ++ behind) : c = d ∧ rest = behind := by
  have noBrace : ∀ digit < 16, (Nat.digitChar digit != '\x7d') = true := by decide
  have digits (number : Nat) : ∀ c ∈ Nat.toDigits 16 number, (c != '\x7d') = true := by
    intro c member
    obtain ⟨digit, small, rfl⟩ := mem_toDigits member
    exact noBrace digit small
  simp only [codePoint, List.cons_append, List.append_assoc, List.nil_append, List.cons.injEq,
    true_and] at same
  obtain ⟨sameDigits, sameRest⟩ := run_unique (digits _) (.cons (by decide)) (digits _)
    (.cons (by decide)) same
  exact ⟨Char.toNat_inj.mp (toDigits_inj sameDigits), (List.cons.inj sameRest).2⟩

theorem escaped (c : Char) :
    Escaped [('"', '"'), ('\\', '\\'), ('\n', 'n'), ('\r', 'r'), ('\t', 't'), ('\x00', '0')]
      (fun c => isHidden c = true) (fun c => '\x7b' :: (Nat.toDigits 16 c.toNat ++ ['\x7d'])) c
      (escape '"' c) := by
  rw [escape]
  split_ifs with quote backslash newLine carriage tab null hidden
  · exact .letter (by simp [quote])
  · exact .letter (by simp [backslash])
  · exact .letter (by simp [newLine])
  · exact .letter (by simp [carriage])
  · exact .letter (by simp [tab])
  · exact .letter (by simp [null])
  · exact .code hidden
  · exact .plain backslash quote

theorem escaping : Escaping (escape '"') := by
  refine .of_escaped (by decide) ?_ escaped
  intro c d rest behind _ _ same
  exact codePoint_unique (congrArg (fun text => '\\' :: 'u' :: text) same)

theorem legible_text (content : String) :
    Legible (fun content : String => (text content).toList) id content := by
  simpa only [text, encode, String.toList_ofList] using escaping.legible content

end PegText.Quoted
