import PegText.Proofs.Grammar.Node
import PegText.Proofs.Parse.Progress
import PegText.Proofs.Text.Cursor

/-!
What nodes match, without levels and without progress: a derivation says how a node, the parts of
a sequence, the branches of a choice or the rounds of a repetition end at a cursor. Every run that
ends has its derivation.
-/

namespace PegText

variable {size : Nat}

inductive Goal (size : Nat)
  | node (node : Node size)
  | parts (parts : List (Node size))
  | branches (branches : List (Node size))
  | rounds (inner : Node size) (most : Option Nat) (count : Nat)

/-- How a goal ends at a cursor: with what it yields and the cursor behind it, or not at all. A
node yields one output. Runs that are `limited` may give up anywhere. -/
inductive RuleTable.Derives (rules : RuleTable size) (limited : Prop) :
    Goal size → Cursor → Option (List Output × Cursor) → Prop
  | gaveUp {node cursor} : limited → Derives rules limited (.node node) cursor none
  | literal {text cursor next} : cursor.Passes text.toList next →
      Derives rules limited (.node (.literal text)) cursor
        (some ([.text (cursor.sliceTo next)], next))
  | literalFails {text cursor} : ¬text.toList <+: cursor.rest →
      Derives rules limited (.node (.literal text)) cursor none
  | char {c cursor next} : cursor.Passes [c] next →
      Derives rules limited (.node (.char c)) cursor (some ([.text (cursor.sliceTo next)], next))
  | charFails {c cursor} : cursor.rest.head? ≠ some c →
      Derives rules limited (.node (.char c)) cursor none
  | charClass {text accepts c cursor next} : accepts c = true → cursor.Passes [c] next →
      Derives rules limited (.node (.charClass text accepts)) cursor
        (some ([.text (cursor.sliceTo next)], next))
  | charClassFails {text accepts cursor} :
      (∀ c, cursor.rest.head? = some c → accepts c = false) →
      Derives rules limited (.node (.charClass text accepts)) cursor none
  | any {c cursor next} : cursor.Passes [c] next →
      Derives rules limited (.node .any) cursor (some ([.text (cursor.sliceTo next)], next))
  | anyFails {cursor} : cursor.rest = [] → Derives rules limited (.node .any) cursor none
  | sequence {parts cursor outputs stop output} :
      Derives rules limited (.parts parts) cursor (some (outputs, stop)) →
      Output.ofSequence cursor stop outputs = .ok output →
      Derives rules limited (.node (.sequence parts)) cursor (some ([output], stop))
  | sequenceFails {parts cursor} : Derives rules limited (.parts parts) cursor none →
      Derives rules limited (.node (.sequence parts)) cursor none
  | choice {branches cursor result} : Derives rules limited (.branches branches) cursor result →
      Derives rules limited (.node (.choice branches)) cursor result
  | repetition {inner least most structured cursor outputs stop} :
      Derives rules limited (.rounds inner most 0) cursor (some (outputs, stop)) →
      least ≤ outputs.length →
      Derives rules limited (.node (.repetition inner least most structured)) cursor
        (some ([.ofRounds structured cursor stop outputs], stop))
  | repetitionFails {inner least most structured cursor outputs stop} :
      Derives rules limited (.rounds inner most 0) cursor (some (outputs, stop)) →
      outputs.length < least →
      Derives rules limited (.node (.repetition inner least most structured)) cursor none
  | absent {inner cursor} : Derives rules limited (.node inner) cursor none →
      Derives rules limited (.node (.absent inner)) cursor
        (some ([.text (cursor.sliceTo cursor)], cursor))
  | absentFails {inner cursor output next} :
      Derives rules limited (.node inner) cursor (some ([output], next)) →
      Derives rules limited (.node (.absent inner)) cursor none
  | capture {name inner cursor output next} :
      Derives rules limited (.node inner) cursor (some ([output], next)) →
      Derives rules limited (.node (.capture name inner)) cursor
        (some ([.fields [(name, output.toCapture)]], next))
  | captureFails {name inner cursor} : Derives rules limited (.node inner) cursor none →
      Derives rules limited (.node (.capture name inner)) cursor none
  | rule {id cursor result} : Derives rules limited (.node (rules.get id).body) cursor result →
      Derives rules limited (.node (.rule id)) cursor result
  | partsNil {cursor} : Derives rules limited (.parts []) cursor (some ([], cursor))
  | partsCons {part rest cursor output next outputs stop} :
      Derives rules limited (.node part) cursor (some ([output], next)) →
      Derives rules limited (.parts rest) next (some (outputs, stop)) →
      Derives rules limited (.parts (part :: rest)) cursor (some (output :: outputs, stop))
  | partsFail {part rest cursor} : Derives rules limited (.node part) cursor none →
      Derives rules limited (.parts (part :: rest)) cursor none
  | partsFailLater {part rest cursor output next} :
      Derives rules limited (.node part) cursor (some ([output], next)) →
      Derives rules limited (.parts rest) next none →
      Derives rules limited (.parts (part :: rest)) cursor none
  | branchesNil {cursor} : Derives rules limited (.branches []) cursor none
  | branchesFirst {branch rest cursor output next} :
      Derives rules limited (.node branch) cursor (some ([output], next)) →
      Derives rules limited (.branches (branch :: rest)) cursor (some ([output], next))
  | branchesLater {branch rest cursor result} :
      Derives rules limited (.node branch) cursor none →
      Derives rules limited (.branches rest) cursor result →
      Derives rules limited (.branches (branch :: rest)) cursor result
  | roundsFull {inner most count cursor} : most.any (· ≤ count) = true →
      Derives rules limited (.rounds inner most count) cursor (some ([], cursor))
  | roundsEnd {inner most count cursor} : most.any (· ≤ count) = false →
      Derives rules limited (.node inner) cursor none →
      Derives rules limited (.rounds inner most count) cursor (some ([], cursor))
  | roundsEmpty {inner most count cursor output next} : most.any (· ≤ count) = false →
      Derives rules limited (.node inner) cursor (some ([output], next)) →
      next.offset = cursor.offset →
      Derives rules limited (.rounds inner most count) cursor (some ([output], next))
  | roundsMore {inner most count cursor output next outputs stop} :
      most.any (· ≤ count) = false →
      Derives rules limited (.node inner) cursor (some ([output], next)) →
      next.offset ≠ cursor.offset →
      Derives rules limited (.rounds inner most (count + 1)) next (some (outputs, stop)) →
      Derives rules limited (.rounds inner most count) cursor (some (output :: outputs, stop))

namespace RuleTable.Derives

variable {rules : RuleTable size} {limited : Prop} {goal : Goal size} {cursor : Cursor}

theorem passes {outputs : List Output} {next : Cursor}
    (derives : rules.Derives limited goal cursor (some (outputs, next))) :
    ∃ passed, cursor.Passes passed next := by
  generalize ended : some (outputs, next) = result at derives
  induction derives generalizing outputs next with
  | gaveUp | literalFails | charFails | charClassFails | anyFails | sequenceFails
  | repetitionFails | absentFails | captureFails | partsFail | partsFailLater | branchesNil =>
      cases ended
  | literal passes | char passes | charClass _ passes | any passes =>
      cases ended
      exact ⟨_, passes⟩
  | sequence _ _ ih | repetition _ _ ih | capture _ ih =>
      cases ended
      exact ih rfl
  | choice _ ih | rule _ ih | branchesLater _ _ _ ih => exact ih ended
  | absent | partsNil | roundsFull | roundsEnd =>
      cases ended
      exact ⟨[], .refl _⟩
  | branchesFirst _ ih | roundsEmpty _ _ _ ih =>
      cases ended
      exact ih rfl
  | partsCons _ _ first later | roundsMore _ _ _ _ first later =>
      cases ended
      obtain ⟨passed, one⟩ := first rfl
      obtain ⟨more, two⟩ := later rfl
      exact ⟨passed ++ more, one.trans two⟩

end RuleTable.Derives

end PegText
