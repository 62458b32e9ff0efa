import PegText.Proofs.Grammar.Flattening
import PegText.Proofs.Parse.Limits
import PegText.Proofs.Parse.Tracking

/-!
Runs of flattened grammars. A run of a flattened grammar tracks one of the grammar itself: no
sequence of a grammar that was built ends at a name that its parts share, flattened or not. So
flattening changes nothing about what is recognized, nor about the reports. The captures may come in
other groups where a sequence was opened, since a list takes in the records beside it one by one;
where only choices were, they are the same.
-/

namespace PegText

variable {size : Nat}

variable {opened : Joint → Prop} {rules rules' : RuleTable size} {facts facts' : FactTable size}

theorem Node.Flattens.describe (rules : RuleTable size) {node flattened : Node size}
    (flattens : node.Flattens opened flattened) :
    flattened.describe rules = node.describe rules := by
  induction flattens with
  | @here joint front inner back _ filled =>
      obtain ⟨first, rest, rfl⟩ := List.exists_cons_of_ne_nil filled
      cases joint <;> cases front <;> rfl
  | @inside joint front _ _ _ _ ih =>
      cases joint <;> cases front <;> first | rfl | exact ih
  | repetition _ ih | absent _ ih => exact ih
  | capture => rfl

theorem RuleTable.Flattens.describe (flattens : rules.Flattens opened rules') (node : Node size) :
    node.describe rules' = node.describe rules := by
  induction node with
  | literal | char | charClass | any | capture => rfl
  | sequence parts ih | choice parts ih =>
      cases parts with
      | nil => rfl
      | cons first rest => exact ih first List.mem_cons_self
  | repetition _ _ _ _ ih | absent _ ih => exact ih
  | rule id => exact (flattens id).1

theorem Node.mem_nodes_joint {joint : Joint} {part : Node size} {parts : List (Node size)}
    (member : part ∈ parts) : part ∈ (joint.node parts).nodes := by
  cases joint with
  | sequence => exact mem_nodes_sequence member
  | choice => exact mem_nodes_choice member

inductive Node.Congruent (near : Node size → Node size → Prop) : Node size → Node size → Prop
  | literal {text} : Congruent near (.literal text) (.literal text)
  | char {c} : Congruent near (.char c) (.char c)
  | charClass {text accepts} : Congruent near (.charClass text accepts) (.charClass text accepts)
  | any : Congruent near .any .any
  | joint {joint : Joint} {parts parts'} : List.Forall₂ near parts parts' →
      Congruent near (joint.node parts) (joint.node parts')
  | repetition {inner inner' least most structured} : near inner inner' →
      Congruent near (.repetition inner least most structured)
        (.repetition inner' least most structured)
  | absent {inner inner'} : near inner inner' → Congruent near (.absent inner) (.absent inner')
  | capture {name inner inner'} : near inner inner' →
      Congruent near (.capture name inner) (.capture name inner')
  | rule {id} : Congruent near (.rule id) (.rule id)

structure Node.Near (opened : Joint → Prop) (rules rules' : RuleTable size)
    (node node' : Node size) : Prop where
  within : node ∈ rules.nodes
  within' : node' ∈ rules'.nodes
  flattens : Relation.ReflGen (Node.Flattens opened) node node'

namespace Node.Near

variable {node node' : Node size}

theorem describe (flattens : rules.Flattens opened rules')
    (near : Near opened rules rules' node node') : node'.describe rules' = node.describe rules := by
  rw [flattens.describe]
  exact eq_of_reflGen (Node.describe rules) near.flattens fun step => step.describe rules

theorem of_inner {inner inner' : Node size} (within : node ∈ rules.nodes)
    (within' : node' ∈ rules'.nodes) (inside : inner ∈ node.nodes) (inside' : inner' ∈ node'.nodes)
    (flattens : Relation.ReflGen (Node.Flattens opened) inner inner') :
    Near opened rules rules' inner inner' :=
  ⟨RuleTable.mem_nodes_of_inner within inside, RuleTable.mem_nodes_of_inner within' inside',
    flattens⟩

theorem of_joint (joint : Joint) {parts parts' all : List (Node size)}
    (within : joint.node parts ∈ rules.nodes) (within' : joint.node parts' ∈ rules'.nodes)
    (among : all ⊆ parts) (among' : all ⊆ parts') :
    List.Forall₂ (Near opened rules rules') all all :=
  List.forall₂_same.mpr fun _ member =>
    of_inner within within' (mem_nodes_joint (among member)) (mem_nodes_joint (among' member)) .refl

theorem congruent_self (within : node ∈ rules.nodes) (within' : node ∈ rules'.nodes) :
    Congruent (Near opened rules rules') node node := by
  cases node with
  | literal => exact .literal
  | char => exact .char
  | charClass => exact .charClass
  | any => exact .any
  | sequence parts =>
      exact @Congruent.joint _ _ .sequence _ _
        (of_joint .sequence within within' (List.Subset.refl _) (List.Subset.refl _))
  | choice branches =>
      exact @Congruent.joint _ _ .choice _ _
        (of_joint .choice within within' (List.Subset.refl _) (List.Subset.refl _))
  | repetition =>
      exact .repetition (of_inner within within' mem_nodes_repetition mem_nodes_repetition .refl)
  | absent => exact .absent (of_inner within within' mem_nodes_absent mem_nodes_absent .refl)
  | capture => exact .capture (of_inner within within' mem_nodes_capture mem_nodes_capture .refl)
  | rule => exact .rule

/-- Either both nodes are of the same form, or a joint was opened right here. -/
theorem congruent_or_opened (near : Near opened rules rules' node node') :
    Congruent (Near opened rules rules') node node' ∨
      ∃ (joint : Joint) (front inner back : List (Node size)), opened joint ∧ inner ≠ [] ∧
        node = joint.node (front ++ joint.node inner :: back) ∧
          node' = joint.node (front ++ (inner ++ back)) := by
  obtain ⟨within, within', flattens⟩ := near
  rcases (Relation.reflGen_iff _ _ _).mp flattens with rfl | step
  · exact .inl (congruent_self within within')
  · cases step with
    | here free filled => exact .inr ⟨_, _, _, _, free, filled, rfl, rfl⟩
    | @inside joint front part flattened back step =>
        left
        have inFront : List.Forall₂ (Near opened rules rules') front front :=
          of_joint joint within within' (by simp) (by simp)
        have inBack : List.Forall₂ (Near opened rules rules') back back :=
          of_joint joint within within' (by simp) (by simp)
        have here : Near opened rules rules' part flattened :=
          of_inner within within' (mem_nodes_joint (by simp)) (mem_nodes_joint (by simp))
            (.single step)
        exact .joint (List.rel_append inFront (.cons here inBack))
    | repetition step =>
        exact .inl (.repetition
          (of_inner within within' mem_nodes_repetition mem_nodes_repetition (.single step)))
    | absent step =>
        exact .inl (.absent
          (of_inner within within' mem_nodes_absent mem_nodes_absent (.single step)))
    | capture step =>
        exact .inl (.capture
          (of_inner within within' mem_nodes_capture mem_nodes_capture (.single step)))

end Node.Near

/-- In an accepted table no sequence ends at a name that its parts share. -/
theorem RuleTable.Accepted.yields (accepted : rules.Accepted facts) {parts : List (Node size)}
    (within : .sequence parts ∈ rules.nodes) (levels : Nat) :
    (rules.run levels).Yields parts := by
  intro cursor progress outputs stop after ended
  have withinParts : ∀ part ∈ parts, part ∈ rules.nodes := fun part member =>
    mem_nodes_of_inner within (Node.mem_nodes_sequence member)
  have sound : Runner.Sound rules True (rules.run levels) := run_sound accepted levels
  have derives := Runner.parts_derives sound withinParts cursor progress (.inl trivial)
  rw [ended] at derives
  have distinct := Node.names_nodup (derives.fits accepted withinParts)
    (accepted.nodup_keysInTurn within)
  obtain ⟨output, merged, -⟩ := Output.ofSequence_sequenced cursor stop distinct
  exact ⟨output, merged⟩

section

variable (flattens : rules.Flattens opened rules') (accepted : rules.Accepted facts)
  (accepted' : rules'.Accepted facts') {levels more : Nat} {node node' : Node size}

include flattens accepted accepted'

theorem Node.Congruent.tracks
    (tracks : ∀ {node node'}, Node.Near opened rules rules' node node' →
      Runner.NodeTracks (¬opened .sequence) (rules.run levels) (rules'.run more) node node')
    (near : Node.Near opened rules rules' node node')
    (congruent : Congruent (Near opened rules rules') node node') :
    Runner.NodeTracks (¬opened .sequence) ((rules.run levels).node rules)
      ((rules'.run more).node rules') node node' := by
  have keeps := rules.run_lasts Progress.lasting_exceeded levels
  obtain ⟨within, within', -⟩ := near
  cases congruent with
  | literal | char | charClass | any => exact fun _ _ _ => ⟨.refl _, rfl⟩
  | @joint joint parts parts' each =>
      have tracksEach := each.imp fun _ _ near => tracks near
      cases joint with
      | sequence =>
          exact Runner.sequence_tracks (.of_forall₂ keeps tracksEach)
            (accepted.yields within levels) (accepted'.yields within' more)
      | choice => exact Runner.choice_tracks (.of_forall₂ keeps tracksEach)
  | repetition inner =>
      exact Runner.repetition_tracks (tracks inner) (inner.describe flattens) keeps _ _ _
  | absent inner => exact Runner.absent_tracks (tracks inner) (inner.describe flattens)
  | capture inner => exact Runner.capture_tracks (tracks inner) _
  | rule =>
      exact tracks ⟨rules.body_mem_nodes _, rules'.body_mem_nodes _, (flattens _).2⟩

omit flattens in
/-- Where a joint was opened, the flattened node does without the level of the joint inside. -/
theorem Joint.opened_tracks {joint : Joint} {front inner back : List (Node size)}
    (tracks : ∀ fewer ≤ levels, ∀ {node node'}, Node.Near opened rules rules' node node' →
      Runner.NodeTracks (¬opened .sequence) (rules.run fewer) (rules'.run more) node node')
    (free : opened joint) (filled : inner ≠ [])
    (within : joint.node (front ++ joint.node inner :: back) ∈ rules.nodes)
    (within' : joint.node (front ++ (inner ++ back)) ∈ rules'.nodes) :
    Runner.NodeTracks (¬opened .sequence) ((rules.run levels).node rules)
      ((rules'.run more).node rules') (joint.node (front ++ joint.node inner :: back))
      (joint.node (front ++ (inner ++ back))) := by
  have keeps (fewer : Nat) := rules.run_lasts Progress.lasting_exceeded fewer
  have tracksEach (fewer : Nat) (less : fewer ≤ levels) {parts parts' : List (Node size)}
      (each : List.Forall₂ (Node.Near opened rules rules') parts parts') :
      List.Forall₂ (Runner.NodeTracks (¬opened .sequence) (rules.run fewer) (rules'.run more))
        parts parts' :=
    each.imp fun _ _ near => tracks fewer less near
  have withinInner : joint.node inner ∈ rules.nodes :=
    RuleTable.mem_nodes_of_inner within (Node.mem_nodes_joint (by simp))
  have inFront : List.Forall₂ (Node.Near opened rules rules') front front :=
    Node.Near.of_joint joint within within' (by simp) (by simp)
  have inInner : List.Forall₂ (Node.Near opened rules rules') inner inner :=
    Node.Near.of_joint joint withinInner within' (by simp) (by simp)
  have inBack : List.Forall₂ (Node.Near opened rules rules') back back :=
    Node.Near.of_joint joint within within' (by simp) (by simp)
  cases joint with
  | sequence =>
      -- in front and behind, the parts run with the same levels; only the opened one loses a level
      have opens : Runner.PartsTrack (¬opened .sequence) (rules.run levels) (rules'.run more)
          [.sequence inner] inner :=
        .opened (fun fewer less => .of_forall₂ (keeps fewer) (tracksEach fewer less.le inInner))
          (accepted.yields withinInner) (not_not_intro free)
      have before := Runner.PartsTrack.of_forall₂ (keeps levels) (tracksEach levels le_rfl inFront)
      have behind := Runner.PartsTrack.of_forall₂ (keeps levels) (tracksEach levels le_rfl inBack)
      exact Runner.sequence_tracks
        (.append (keeps levels) before (.append (keeps levels) opens behind))
        (accepted.yields within levels) (accepted'.yields within' more)
  | choice =>
      have opens : Runner.BranchesTrack (¬opened .sequence) (rules.run levels) (rules'.run more)
          [.choice inner] inner :=
        .opened filled fun fewer less =>
          .of_forall₂ (keeps fewer) (tracksEach fewer less.le inInner)
      have behind := Runner.BranchesTrack.of_forall₂ (keeps levels)
        (tracksEach levels le_rfl inBack)
      exact Runner.choice_tracks
        (.prepend (keeps levels) (tracksEach levels le_rfl inFront)
          (.append (keeps levels) (List.cons_ne_nil _ []) filled opens behind))

/-- The run of a flattened table tracks that of the table, with as many levels or more. The
induction is over all smaller numbers of levels, since an opened joint skips one. -/
theorem RuleTable.Flattens.run_tracks (enough : levels ≤ more)
    (near : Node.Near opened rules rules' node node') :
    Runner.NodeTracks (¬opened .sequence) (rules.run levels) (rules'.run more) node node' := by
  induction levels using Nat.strongRecOn generalizing more node node' with
  | ind levels ih =>
      cases levels with
      | zero =>
          intro cursor progress settled
          cases settled
      | succ levels =>
          obtain ⟨more, rfl⟩ :=
            Nat.exists_eq_add_of_le' (Nat.lt_of_lt_of_le (Nat.zero_lt_succ _) enough)
          have tracks (fewer : Nat) (less : fewer ≤ levels) {node node' : Node size}
              (near : Node.Near opened rules rules' node node') :
              Runner.NodeTracks (¬opened .sequence) (rules.run fewer) (rules'.run more) node
                node' :=
            ih fewer (Nat.lt_succ_of_le less) (less.trans (Nat.le_of_succ_le_succ enough)) near
          have level : Runner.NodeTracks (¬opened .sequence) ((rules.run levels).node rules)
              ((rules'.run more).node rules') node node' := by
            rcases near.congruent_or_opened with
              congruent | ⟨joint, front, inner, back, free, filled, rfl, rfl⟩
            · exact congruent.tracks flattens accepted accepted' (tracks levels le_rfl) near
            · exact Joint.opened_tracks accepted accepted' tracks free filled near.within
                near.within'
          intro cursor progress settled
          have fine : progress.exceeded = none :=
            rules.run_lasts Progress.lasting_exceeded (levels + 1) node cursor progress settled
          rw [RuleTable.run_succ, fine] at settled
          rw [RuleTable.run_succ, RuleTable.run_succ, fine]
          exact level cursor progress settled

end

namespace Grammar

variable {grammar grammar' grammar'' : Grammar} {rule : Option String} {source : Source}
  {limit more : Nat} {exact : Prop}

/-- Wherever a parse is not too deep for the first grammar, it is not for the second, at the same
limit or a higher one, and it ends alike: with the same report, or with a tree from both, which with
`exact` is the same one. -/
def Tracks (exact : Prop) (grammar grammar' : Grammar) : Prop :=
  ∀ rule source {limit more}, limit ≤ more → ¬grammar.TooDeep rule source limit →
    ¬grammar'.TooDeep rule source more ∧
      SameIf exact (grammar.parseNested rule source limit) (grammar'.parseNested rule source more)

theorem not_tooDeep_of_le (within : ¬grammar.TooDeep rule source limit) (enough : limit ≤ more) :
    ¬grammar.TooDeep rule source more := by
  cases known : grammar.startRule? rule with
  | none => exact not_tooDeep_of_unknown known
  | some id =>
      rw [tooDeep_iff_exceeded known, not_not] at within ⊢
      rwa [(parse_of_le (by rwa [tooDeep_iff_exceeded known, not_not]) enough).2 id known]

theorem exists_not_tooDeep {facts : FactTable grammar.size}
    (accepted : grammar.rules.Accepted facts) (rule : Option String) (source : Source) :
    ∃ enough, ∀ limit, enough ≤ limit → ¬grammar.TooDeep rule source limit := by
  cases known : grammar.startRule? rule with
  | none => exact ⟨0, fun _ _ => not_tooDeep_of_unknown known⟩
  | some id =>
      refine ⟨grammar.rules.weight facts (grammar.rules.get id).body +
        grammar.rules.nodeCount * String.utf8Len (Cursor.start source.text).rest, ?_⟩
      intro limit enough
      rw [tooDeep_iff_exceeded known, not_not]
      exact RuleTable.run_shallow accepted limit (grammar.rules.body_mem_nodes id) _ _ rfl enough

theorem Tracks.refl (grammar : Grammar) : Tracks exact grammar grammar := by
  intro rule source limit more enough within
  refine ⟨not_tooDeep_of_le within enough, ?_⟩
  rw [(parse_of_le within enough).1]
  exact SameIf.refl _

theorem Tracks.trans (one : Tracks exact grammar grammar') (two : Tracks exact grammar' grammar'') :
    Tracks exact grammar grammar'' := by
  intro rule source limit more enough within
  obtain ⟨between, same⟩ := one rule source (Nat.le_refl limit) within
  obtain ⟨beyond, same'⟩ := two rule source enough between
  exact ⟨beyond, SameIf.trans same same'⟩

theorem conclude_tracks {first second : Outcome × Progress}
    (tracks : Progress.Tracks (Outcome.Agrees exact) first second)
    (settled : first.2.exceeded = none) :
    SameIf exact (conclude source limit first) (conclude source more second) := by
  obtain ⟨outcome, outcome', after, rfl, rfl, agree⟩ := tracks.exists_answers settled
  have fine : after.exceeded = none := settled
  cases agree with
  | failed =>
      simp only [conclude, fine]
      exact .error
  | @matched output output' next same =>
      simp only [conclude, fine]
      by_cases atEnd : next.isAtEnd = true
      · simp only [if_pos atEnd]
        exact .ok fun due => congrArg Output.toCapture (same due)
      · simp only [if_neg atEnd]
        exact .error

theorem Flattens.tracks (flattens : grammar.Flattens opened grammar') :
    Tracks (¬opened .sequence) grammar grammar' := by
  obtain @⟨name, size, root, maxNesting, rules, rules', facts, tables, accepted, accepted'⟩ :=
    flattens
  intro rule source limit more enough within
  have start : startRule? ⟨name, size, rules', root, maxNesting⟩ rule =
      startRule? ⟨name, size, rules, root, maxNesting⟩ rule := by
    cases rule with
    | none => rfl
    | some wanted => simp only [startRule?, ruleId?, fun id => (tables id).1]
  cases known : startRule? ⟨name, size, rules, root, maxNesting⟩ rule with
  | none =>
      have known' := start.trans known
      rw [parseNested_unknown known, parseNested_unknown known']
      exact ⟨not_tooDeep_of_unknown known', .error⟩
  | some id =>
      have known' := start.trans known
      rw [tooDeep_iff_exceeded known, not_not] at within
      have tracks := tables.run_tracks accepted accepted' enough
        ⟨rules.body_mem_nodes id, rules'.body_mem_nodes id, (tables id).2⟩ (.start source.text)
        .initial
      rw [tooDeep_iff_exceeded known', not_not, parseNested_eq_parseWith known,
        parseNested_eq_parseWith known']
      exact ⟨(congrArg Progress.exceeded (tracks within).2).trans within,
        conclude_tracks tracks within⟩

namespace Draft

variable {read : CharClass.Reader} {draft draft' : Draft}

/-- A flattened draft that is accepted comes from an accepted one, whose parses it tracks. -/
theorem exists_tracked (flattens : Relation.ReflTransGen (Flattens opened) draft draft')
    (built' : draft'.build? read = some (.ok grammar')) :
    ∃ grammar, draft.build? read = some (.ok grammar) ∧
      grammar.Tracks (¬opened .sequence) grammar' := by
  induction flattens using Relation.ReflTransGen.head_induction_on with
  | refl => exact ⟨grammar', built', .refl grammar'⟩
  | head step _ ih =>
      obtain ⟨between, builtBetween, tracks⟩ := ih
      obtain ⟨grammar, built, flattens⟩ := step.exists_grammar builtBetween
      exact ⟨grammar, built, flattens.tracks.trans tracks⟩

/-- Flattening does not change what is recognized. If a draft and a form of it in which sequences
inside sequences and choices inside choices are replaced by what they hold are both accepted, every
source is within the limits of both from some limit on. Under any two limits that are not too low,
both parse it or both report the same mismatch, at the same place; and if no sequence was opened,
they give the same tree. -/
theorem agree_of_flattens (flattens : Relation.ReflTransGen (Flattens opened) draft draft')
    (built : draft.build? read = some (.ok grammar))
    (built' : draft'.build? read = some (.ok grammar')) (rule : Option String) (source : Source) :
    (∃ enough, ∀ limit, enough ≤ limit →
      ¬grammar.TooDeep rule source limit ∧ ¬grammar'.TooDeep rule source limit) ∧
    ∀ limit limit', ¬grammar.TooDeep rule source limit → ¬grammar'.TooDeep rule source limit' →
      ((∃ capture, grammar.parseNested rule source limit = .ok capture) ↔
        ∃ capture, grammar'.parseNested rule source limit' = .ok capture) ∧
      (∀ diagnostic, grammar.parseNested rule source limit = .error diagnostic ↔
        grammar'.parseNested rule source limit' = .error diagnostic) ∧
      (¬opened .sequence →
        grammar'.parseNested rule source limit' = grammar.parseNested rule source limit) := by
  obtain ⟨_, builtHere, tracks⟩ := exists_tracked flattens built'
  cases builtHere.symm.trans built
  constructor
  · obtain ⟨facts, accepted⟩ := accepted_of_build? built
    obtain ⟨enough, within⟩ := exists_not_tooDeep accepted rule source
    exact ⟨enough, fun limit above =>
      ⟨within limit above, (tracks rule source (Nat.le_refl limit) (within limit above)).1⟩⟩
  · intro limit limit' within within'
    have same := (tracks rule source (Nat.le_max_left limit limit') within).2
    rw [(parse_of_le within' (Nat.le_max_right limit limit')).1] at same
    exact SameIf.iff same

section

open Matcher

def lettersOf (body : Matcher) : Draft := ⟨"letters", [("letters", body)], none, defaultMaxNesting⟩

def apart : Draft :=
  lettersOf (.sequence [any.named "first", .sequence
    [(Matcher.choice [char '-', .choice [char '+', char '=']]).named "mark",
      (any.named "rest").atLeast 0]])

def signsJoined : Draft :=
  lettersOf (.sequence [any.named "first", .sequence
    [(char '-' ||| (char '+' ||| char '=')).named "mark", (any.named "rest").atLeast 0]])

def joined : Draft :=
  lettersOf (any.named "first" >>>
    ((char '-' ||| (char '+' ||| char '=')).named "mark" >>> (any.named "rest").atLeast 0))

end

def lettersGrammarOf (body : Node 1) : Grammar :=
  ⟨"letters", 1, #v[⟨"letters", body⟩], ⟨0, Nat.one_pos⟩, defaultMaxNesting⟩

def apartGrammar : Grammar :=
  lettersGrammarOf (.sequence [.capture "first" .any, .sequence
    [.capture "mark" (.choice [.char '-', .choice [.char '+', .char '=']]),
      .repetition (.capture "rest" .any) 0 none true]])

def signsJoinedGrammar : Grammar :=
  lettersGrammarOf (.sequence [.capture "first" .any, .sequence
    [.capture "mark" (.choice [.char '-', .char '+', .char '=']),
      .repetition (.capture "rest" .any) 0 none true]])

def joinedGrammar : Grammar :=
  lettersGrammarOf (.sequence [.capture "first" .any,
    .capture "mark" (.choice [.char '-', .char '+', .char '=']),
    .repetition (.capture "rest" .any) 0 none true])

theorem build?_apart : apart.build? CharClass.read = some (.ok apartGrammar) := by
  with_unfolding_all rfl

theorem build?_signsJoined : signsJoined.build? CharClass.read = some (.ok signsJoinedGrammar) := by
  with_unfolding_all rfl

theorem build?_joined : joined.build? CharClass.read = some (.ok joinedGrammar) := by
  with_unfolding_all rfl

theorem flattens_lettersOf {body body' : Matcher} (flattens : body.Flattens opened body') :
    (lettersOf body).Flattens opened (lettersOf body') :=
  ⟨rfl, .cons ⟨rfl, .single flattens⟩ .nil, rfl, rfl⟩

theorem apart_flattens_signsJoined (free : opened .choice) :
    apart.Flattens opened signsJoined := by
  refine flattens_lettersOf (@Matcher.Flattens.inside _ .sequence [_] _ _ [] ?_)
  refine @Matcher.Flattens.inside _ .sequence [] _ _ [_] ?_
  exact .capture (@Matcher.Flattens.here _ .choice [_] [_, _] [] free (List.cons_ne_nil _ _))

theorem signsJoined_flattens_joined (free : opened .sequence) :
    signsJoined.Flattens opened joined :=
  flattens_lettersOf
    (@Matcher.Flattens.here _ .sequence [_] [_, _] [] free (List.cons_ne_nil _ _))

/-- Both flattened forms parse the same text, the first of them to the same tree. -/
theorem agree_of_flattens_letters :
    Relation.ReflTransGen (Flattens (· = .choice)) apart signsJoined ∧
      Relation.ReflTransGen (Flattens fun _ => True) apart joined ∧
      apart.build? CharClass.read = some (.ok apartGrammar) ∧
      signsJoined.build? CharClass.read = some (.ok signsJoinedGrammar) ∧
      joined.build? CharClass.read = some (.ok joinedGrammar) ∧
      ¬apartGrammar.TooDeep none (.ofInput "é+b") 6 ∧
      ¬signsJoinedGrammar.TooDeep none (.ofInput "é+b") 5 ∧
      ¬joinedGrammar.TooDeep none (.ofInput "é+b") 4 ∧
      signsJoinedGrammar.parseNested none (.ofInput "é+b") 5 =
        apartGrammar.parseNested none (.ofInput "é+b") 6 ∧
      ((∃ capture, apartGrammar.parseNested none (.ofInput "é+b") 6 = .ok capture) ↔
        ∃ capture, joinedGrammar.parseNested none (.ofInput "é+b") 4 = .ok capture) := by
  have choices : Relation.ReflTransGen (Flattens (· = .choice)) apart signsJoined :=
    .single (apart_flattens_signsJoined rfl)
  have both : Relation.ReflTransGen (Flattens fun _ => True) apart joined :=
    .tail (.single (apart_flattens_signsJoined trivial)) (signsJoined_flattens_joined trivial)
  have within : ¬apartGrammar.TooDeep none (.ofInput "é+b") 6 := by
    rw [tooDeep_iff_exceeded rfl, not_not]
    decide +kernel
  have withinSigns : ¬signsJoinedGrammar.TooDeep none (.ofInput "é+b") 5 := by
    rw [tooDeep_iff_exceeded rfl, not_not]
    decide +kernel
  have withinJoined : ¬joinedGrammar.TooDeep none (.ofInput "é+b") 4 := by
    rw [tooDeep_iff_exceeded rfl, not_not]
    decide +kernel
  have alike := (agree_of_flattens choices build?_apart build?_signsJoined none (.ofInput "é+b")).2
    6 5 within withinSigns
  have recognized := (agree_of_flattens both build?_apart build?_joined none (.ofInput "é+b")).2
    6 4 within withinJoined
  exact ⟨choices, both, build?_apart, build?_signsJoined, build?_joined, within, withinSigns,
    withinJoined, alike.2.2 (by decide), recognized.1⟩

/-- With one sequence, the first letter and the mark share a record. -/
example :
    (apartGrammar.parse "é+b").toOption.map Capture.display =
        some "[\x7bfirst: \"é\"\x7d, \x7bmark: \"+\"\x7d, \x7brest: \"b\"\x7d]" ∧
      (joinedGrammar.parse "é+b").toOption.map Capture.display =
        some "[\x7bfirst: \"é\", mark: \"+\"\x7d, \x7brest: \"b\"\x7d]" := by
  decide +kernel

end Draft

end Grammar

end PegText
