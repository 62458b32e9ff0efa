import PegText.Document
import PegText.Proofs.Language.Directive
import PegText.Proofs.Parse.Matching

/-!
What the rules for directive blocks match. A block begins with the marker and two flags, and
plain text goes on exactly as far as no block begins.
-/

namespace PegText

def Flag.ruleName : Flag → String
  | visible => "show"
  | hidden => "hide"

def Visibility.capture (visibility : Visibility) (command result : Slice) : Capture :=
  .record
    [("command", .tagged visibility.command.ruleName (.atom command)),
     ("result", .tagged visibility.result.ruleName (.atom result))]

namespace Language.Directive

def opening (visibility : Visibility) : List Char := (marker ++ visibility.signs).toList

def Unopened (text : List Char) : Prop := ∀ visibility, ¬opening visibility <:+: text

theorem opening_eq (visibility : Visibility) :
    opening visibility = marker.toList ++ visibility.signs.toList :=
  String.toList_append

theorem utf8Len_opening_pos (visibility : Visibility) : 0 < String.utf8Len (opening visibility) := by
  rw [Nat.pos_iff_ne_zero, ne_eq, String.utf8Len_eq_zero, opening_eq]
  exact List.append_ne_nil_of_left_ne_nil (by decide) _

variable {cursor next : Cursor} {output : Output}

theorem body_ruleName (flag : Flag) :
    (rules.get (named flag.ruleName)).body =
      .capture flag.ruleName (.literal (String.singleton flag.sign)) := by
  cases flag with
  | visible => exact body_show
  | hidden => exact body_hide

theorem flag_matches (found : rules.Matches (.rule (named "flag")) cursor output next) :
    ∃ flag : Flag, cursor.Passes [flag.sign] next ∧
      output = .fields [(flag.ruleName, .atom (cursor.sliceTo next))] := by
  have inside := found.of_rule
  rw [body_flag] at inside
  obtain ⟨branch, member, matched⟩ := inside.of_choice
  have known : ∃ flag : Flag, branch = .rule (named flag.ruleName) := by
    rcases List.mem_cons.mp member with same | later
    · exact ⟨.visible, same⟩
    · exact ⟨.hidden, List.mem_singleton.mp later⟩
  obtain ⟨flag, rfl⟩ := known
  have captured := matched.of_rule
  rw [body_ruleName] at captured
  obtain ⟨yielded, literal, same⟩ := captured.of_capture
  obtain ⟨passes, text⟩ := literal.of_literal
  refine ⟨flag, ?_, ?_⟩
  · simpa using passes
  · rw [same, text]
    rfl

theorem flag_fails (failed : rules.Fails (.rule (named "flag")) cursor) (flag : Flag) :
    ¬[flag.sign] <+: cursor.rest := by
  have inside := failed.of_rule
  rw [body_flag] at inside
  have branch : rules.Fails (.rule (named flag.ruleName)) cursor := by
    cases flag with
    | visible => exact inside.of_choice _ List.mem_cons_self
    | hidden => exact inside.of_choice _ (List.mem_cons_of_mem _ List.mem_cons_self)
  have captured := branch.of_rule
  rw [body_ruleName] at captured
  simpa using captured.of_capture.of_literal

theorem visibility_matches (found : rules.Matches (.rule (named "visibility")) cursor output next) :
    ∃ (visibility : Visibility) (command result : Slice),
      cursor.Passes visibility.signs.toList next ∧
        output.toCapture = visibility.capture command result := by
  have inside := found.of_rule
  rw [body_visibility] at inside
  obtain ⟨outputs, inTurn, merged⟩ := inside.of_sequence
  obtain ⟨first, middle, later, commandFound, behindFirst, rfl⟩ := inTurn.of_cons
  obtain ⟨second, stop, last, resultFound, behindSecond, rfl⟩ := behindFirst.of_cons
  obtain ⟨rfl, rfl⟩ := behindSecond.of_nil
  obtain ⟨_, commandFlag, rfl⟩ := commandFound.of_capture
  obtain ⟨_, resultFlag, rfl⟩ := resultFound.of_capture
  obtain ⟨command, commandPasses, rfl⟩ := flag_matches commandFlag
  obtain ⟨result, resultPasses, rfl⟩ := flag_matches resultFlag
  have signs : (Visibility.mk command result).signs.toList = [command.sign] ++ [result.sign] :=
    String.toList_ofList
  refine ⟨⟨command, result⟩, cursor.sliceTo middle, middle.sliceTo next, ?_, ?_⟩
  · rw [signs]
    exact commandPasses.trans resultPasses
  · cases merged
    rw [Entries.insert_of_gt _ _ _ (by decide)]
    rfl

theorem visibility_fails (failed : rules.Fails (.rule (named "visibility")) cursor)
    (visibility : Visibility) : ¬visibility.signs.toList <+: cursor.rest := by
  have signs : visibility.signs.toList = [visibility.command.sign] ++ [visibility.result.sign] :=
    String.toList_ofList
  intro begins
  rw [signs] at begins
  have inside := failed.of_rule
  rw [body_visibility] at inside
  rcases inside.of_sequence with commandFails | ⟨_, middle, commandFound, inside⟩
  · exact flag_fails commandFails.of_capture visibility.command
      ((List.prefix_append _ _).trans begins)
  · obtain ⟨_, commandFlag, _⟩ := commandFound.of_capture
    obtain ⟨command, passes, _⟩ := flag_matches commandFlag
    rcases inside.of_sequence with resultFails | ⟨_, _, _, inside⟩
    · refine flag_fails resultFails.of_capture visibility.result ?_
      rw [passes.rest] at begins
      exact (List.cons_prefix_cons.mp begins).2
    · exact inside.of_sequence_nil

theorem part_mem_nodes {id : Fin draft.rules.length} {part : Node draft.rules.length}
    {parts : List (Node draft.rules.length)} (body : (rules.get id).body = .sequence parts)
    (member : part ∈ parts) : part ∈ rules.nodes :=
  RuleTable.mem_nodes.mpr ⟨id, body ▸ Node.mem_nodes_sequence member⟩

theorem start_matches (found : rules.Matches (.rule (named "start_command")) cursor output next) :
    ∃ (visibility : Visibility) (command result : Slice) (blanks : List Char),
      cursor.Passes (opening visibility ++ blanks) next ∧
        output = .fields [("visibility", visibility.capture command result)] := by
  have inside := found.of_rule
  rw [body_start_command] at inside
  obtain ⟨outputs, inTurn, merged⟩ := inside.of_sequence
  obtain ⟨first, afterMarker, _, markerFound, behindMarker, rfl⟩ := inTurn.of_cons
  obtain ⟨second, afterFlags, _, flagsFound, behindFlags, rfl⟩ := behindMarker.of_cons
  obtain ⟨third, stop, _, blanksFound, behindBlanks, rfl⟩ := behindFlags.of_cons
  obtain ⟨rfl, rfl⟩ := behindBlanks.of_nil
  obtain ⟨markerPasses, rfl⟩ := markerFound.of_literal
  obtain ⟨_, flags, rfl⟩ := flagsFound.of_capture
  obtain ⟨visibility, command, result, flagsPass, captured⟩ := visibility_matches flags
  obtain ⟨blanks, blanksPass⟩ := blanksFound.passes
  have plain : third.isText = true :=
    accepted.isText_of_matches (part_mem_nodes body_start_command (by simp)) rfl blanksFound
  refine ⟨visibility, command, result, blanks, ?_, ?_⟩
  · rw [opening_eq]
    exact (markerPasses.trans flagsPass).trans blanksPass
  · cases third with
    | text slice =>
        rw [captured] at merged
        cases merged
        rfl
    | fields | list => cases plain

theorem start_fails (failed : rules.Fails (.rule (named "start_command")) cursor)
    (visibility : Visibility) : ¬opening visibility <+: cursor.rest := by
  intro begins
  rw [opening_eq] at begins
  have inside := failed.of_rule
  rw [body_start_command] at inside
  rcases inside.of_sequence with markerFails | ⟨_, middle, markerFound, inside⟩
  · exact markerFails.of_literal ((List.prefix_append _ _).trans begins)
  · obtain ⟨passes, _⟩ := markerFound.of_literal
    rw [passes.rest, List.prefix_append_right_inj] at begins
    rcases inside.of_sequence with flagsFail | ⟨_, _, _, inside⟩
    · exact visibility_fails flagsFail.of_capture visibility begins
    · rcases inside.of_sequence with blanksFail | ⟨_, _, _, inside⟩
      · exact blanksFail.of_repetition
      · exact inside.of_sequence_nil

theorem rounds_unopened {outputs : List Output}
    (rounds : rules.Rounds (.sequence [.absent (.rule (named "start_command")), .any]) cursor
      outputs next) :
    ∃ passed, cursor.Passes passed next ∧ Unopened passed := by
  induction rounds with
  | nil => exact ⟨[], .refl _, fun visibility found => by simp [opening_eq, marker] at found⟩
  | @cons start _ _ _ stop matched _ ih =>
      obtain ⟨outputs, inTurn, _⟩ := matched.of_sequence
      obtain ⟨_, here, _, absent, inTurn, _⟩ := inTurn.of_cons
      obtain ⟨_, middle, _, anyFound, inTurn, _⟩ := inTurn.of_cons
      obtain ⟨rfl, _⟩ := inTurn.of_nil
      obtain ⟨noStart, rfl⟩ := absent.of_absent
      obtain ⟨c, passes⟩ := anyFound.of_any
      obtain ⟨passed, further, unopened⟩ := ih
      refine ⟨[c] ++ passed, passes.trans further, fun visibility found => ?_⟩
      -- a block that begins here is one that the lookahead would have seen
      rcases List.infix_cons_iff.mp found with atStart | later
      · refine start_fails noStart visibility (atStart.trans ?_)
        rw [(passes.trans further).rest]
        exact List.prefix_append _ _
      · exact unopened visibility later

theorem text_matches (found : rules.Matches (.rule (named "text")) cursor output next) :
    ∃ passed, cursor.Passes passed next ∧ Unopened passed ∧
      output = .text ⟨.ofList passed, cursor.offset, next.offset⟩ := by
  have inside := found.of_rule
  rw [body_text] at inside
  obtain ⟨outputs, rounds, same⟩ := inside.of_repetition
  obtain ⟨passed, passes, unopened⟩ := rounds_unopened rounds
  refine ⟨passed, passes, unopened, ?_⟩
  have within : .repetition (.sequence [.absent (.rule (named "start_command")), .any]) 0 none
      false ∈ rules.nodes := body_text ▸ rules.body_mem_nodes (named "text")
  have plain := accepted.isText_of_matches within rfl inside
  rw [← passes.sliceTo]
  rw [same, Output.ofRounds] at plain ⊢
  split at plain
  next allText => rw [if_pos allText]
  next notText => cases plain

inductive Block : Cursor → Capture → Cursor → Prop
  | mk {cursor next : Cursor} {visibility : Visibility} {head body : List Char}
      {arguments name : Capture} {start : Nat} {command result : Slice} :
      cursor.Passes (opening visibility ++ (head ++ body)) next → Unopened body →
      Block cursor
        (.tagged "code"
          (.record
            [("arglist", arguments), ("funcall", name),
             ("stdin", .atom ⟨.ofList body, start, next.offset⟩),
             ("visibility", visibility.capture command result)])) next

inductive Blocks : Cursor → List Capture → Cursor → Prop
  | nil {stop} : Blocks stop [] stop
  | cons {start block middle blocks stop} : Block start block middle →
      Blocks middle blocks stop → Blocks start (block :: blocks) stop

theorem ofSequence_command (start stop : Cursor) (arguments name body : Capture)
    (blanks newline : Slice) :
    Output.ofSequence start stop
        [.fields [("funcall", name)], .fields [("arglist", arguments)], .text blanks,
          .text newline, .fields [("stdin", body)]] =
      .ok (.fields [("arglist", arguments), ("funcall", name), ("stdin", body)]) := by
  change Output.mergeAll (.fields [("funcall", name)])
    [.fields [("arglist", arguments)], .fields [("stdin", body)]] = _
  simp (disch := decide) [Output.mergeAll, Output.merge, Output.mergeFields, Entries.contains,
    Entries.insert_of_lt, Entries.insert_of_gt, Except.map]

theorem ofSequence_code (start stop : Cursor) (arguments name body visibility : Capture) :
    Output.ofSequence start stop
        [.fields [("visibility", visibility)],
          .fields [("arglist", arguments), ("funcall", name), ("stdin", body)]] =
      .ok (.fields
        [("arglist", arguments), ("funcall", name), ("stdin", body),
          ("visibility", visibility)]) := by
  change Output.mergeAll (.fields [("visibility", visibility)])
    [.fields [("arglist", arguments), ("funcall", name), ("stdin", body)]] = _
  simp (disch := decide) [Output.mergeAll, Output.merge, Output.mergeFields, Entries.contains,
    Entries.insert_of_lt, Entries.insert_of_gt, Except.map]

theorem command_matches (found : rules.Matches (.rule (named "command")) cursor output next) :
    ∃ (head body : List Char) (arguments name : Capture) (start : Nat),
      cursor.Passes (head ++ body) next ∧ Unopened body ∧
        output = .fields
          [("arglist", arguments), ("funcall", name),
           ("stdin", .atom ⟨.ofList body, start, next.offset⟩)] := by
  have inside := found.of_rule
  rw [body_command] at inside
  obtain ⟨outputs, inTurn, merged⟩ := inside.of_sequence
  obtain ⟨first, _, _, nameFound, behindName, rfl⟩ := inTurn.of_cons
  obtain ⟨second, _, _, argumentsFound, behindArguments, rfl⟩ := behindName.of_cons
  obtain ⟨third, _, _, blanksFound, behindBlanks, rfl⟩ := behindArguments.of_cons
  obtain ⟨fourth, behindHead, _, newlineFound, behindNewline, rfl⟩ := behindBlanks.of_cons
  obtain ⟨fifth, stop, _, stdinFound, behindStdin, rfl⟩ := behindNewline.of_cons
  obtain ⟨rfl, rfl⟩ := behindStdin.of_nil
  obtain ⟨_, namePasses⟩ := nameFound.passes
  obtain ⟨_, argumentsPass⟩ := argumentsFound.passes
  obtain ⟨_, blanksPass⟩ := blanksFound.passes
  obtain ⟨_, newlinePasses⟩ := newlineFound.passes
  have blanksPlain : third.isText = true :=
    accepted.isText_of_matches (part_mem_nodes body_command (by simp)) rfl blanksFound
  have newlinePlain : fourth.isText = true :=
    accepted.isText_of_matches (part_mem_nodes body_command (by simp)) rfl newlineFound
  have nameInside := nameFound.of_rule
  rw [body_funcall] at nameInside
  obtain ⟨name, _, rfl⟩ := nameInside.of_capture
  obtain ⟨arguments, _, rfl⟩ := argumentsFound.of_capture
  have stdinInside := stdinFound.of_rule
  rw [body_stdin] at stdinInside
  obtain ⟨_, textFound, rfl⟩ := stdinInside.of_capture
  obtain ⟨body, bodyPasses, unopened, rfl⟩ := text_matches textFound
  refine ⟨_, body, arguments.toCapture, name.toCapture, behindHead.offset,
    ((namePasses.trans argumentsPass).trans (blanksPass.trans newlinePasses)).trans bodyPasses,
    unopened, ?_⟩
  cases third with
  | text blanks =>
      cases fourth with
      | text newline =>
          exact (Except.ok.inj ((ofSequence_command _ _ _ _ _ _ _).symm.trans merged)).symm
      | fields | list => cases newlinePlain
  | fields | list => cases blanksPlain

theorem code_matches (found : rules.Matches (.rule (named "code")) cursor output next) :
    ∃ block, Block cursor block next ∧ output.roundItems = [block] := by
  have inside := found.of_rule
  rw [body_code] at inside
  obtain ⟨yielded, sequence, rfl⟩ := inside.of_capture
  obtain ⟨outputs, inTurn, merged⟩ := sequence.of_sequence
  obtain ⟨first, _, _, startFound, behindStart, rfl⟩ := inTurn.of_cons
  obtain ⟨second, stop, _, commandFound, behindCommand, rfl⟩ := behindStart.of_cons
  obtain ⟨rfl, rfl⟩ := behindCommand.of_nil
  obtain ⟨visibility, command, result, blanks, startPasses, rfl⟩ := start_matches startFound
  obtain ⟨head, body, arguments, name, start, commandPasses, unopened, rfl⟩ :=
    command_matches commandFound
  have passes : cursor.Passes (opening visibility ++ ((blanks ++ head) ++ body)) next := by
    simpa only [List.append_assoc] using startPasses.trans commandPasses
  refine ⟨_, @Block.mk cursor next visibility (blanks ++ head) body arguments name start command
    result passes unopened, ?_⟩
  rw [← Except.ok.inj ((ofSequence_code _ _ _ _ _ _).symm.trans merged)]
  rfl

theorem rounds_blocks {outputs : List Output}
    (rounds : rules.Rounds (.rule (named "code")) cursor outputs next) :
    Blocks cursor (outputs.flatMap Output.roundItems) next := by
  induction rounds with
  | nil => exact .nil
  | cons matched _ ih =>
      obtain ⟨block, isBlock, items⟩ := code_matches matched
      rw [List.flatMap_cons, items]
      exact .cons isBlock ih

/-- A document is plain text up to the first block, and then blocks. -/
theorem document_matches
    (found : rules.Matches (rules.get (named "document")).body cursor output next) :
    ∃ (text : List Char) (middle : Cursor) (blocks : List Capture),
      cursor.Passes text middle ∧ Unopened text ∧ Blocks middle blocks next ∧
        output.toCapture = .list
          (.tagged "no_code" (.atom ⟨.ofList text, cursor.offset, middle.offset⟩) :: blocks) := by
  rw [body_document] at found
  obtain ⟨outputs, inTurn, merged⟩ := found.of_sequence
  obtain ⟨first, middle, _, textFound, behindText, rfl⟩ := inTurn.of_cons
  obtain ⟨second, stop, _, blocksFound, behindBlocks, rfl⟩ := behindText.of_cons
  obtain ⟨rfl, rfl⟩ := behindBlocks.of_nil
  have textInside := textFound.of_rule
  rw [body_no_code] at textInside
  obtain ⟨_, textCaptured, rfl⟩ := textInside.of_capture
  obtain ⟨text, passes, unopened, rfl⟩ := text_matches textCaptured
  obtain ⟨outputs, rounds, rfl⟩ := blocksFound.of_repetition
  refine ⟨text, middle, outputs.flatMap Output.roundItems, passes, unopened,
    rounds_blocks rounds, ?_⟩
  cases merged
  rfl

end Language.Directive

end PegText
