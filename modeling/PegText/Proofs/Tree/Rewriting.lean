import PegText.Proofs.Tree.Reduction

/-!
A reduction is one pass over the tree, in which each node is replaced at most once and what
replaces it is not looked at again. The limit on depth changes nothing for a tree that is not higher
than the limit. A higher tree is refused: at the first node beyond the limit, or by a rule that
cannot build and that the pass comes to before any such node.
-/

namespace PegText

namespace Tree

variable {α : Type}

structure Visit (α : Type) where
  depth : Nat
  tree : Tree α

mutual

def nodes (depth : Nat) : Tree α → List (Visit α)
  | atom slice => [⟨depth, atom slice⟩]
  | value content => [⟨depth, value content⟩]
  | record entries => ⟨depth, record entries⟩ :: entryNodes (depth + 1) entries
  | list items => ⟨depth, list items⟩ :: itemNodes (depth + 1) items

def entryNodes (depth : Nat) : List (String × Tree α) → List (Visit α)
  | [] => []
  | (_, tree) :: rest => nodes depth tree ++ entryNodes depth rest

def itemNodes (depth : Nat) : List (Tree α) → List (Visit α)
  | [] => []
  | tree :: rest => nodes depth tree ++ itemNodes depth rest

end

mutual

theorem exists_node_on_level (depth level : Nat) (tree : Tree α) :
    (∃ visit ∈ tree.nodes depth, visit.depth = level) ↔
      depth ≤ level ∧ level < depth + tree.height := by
  match tree with
  | atom _ | value _ =>
      simp only [nodes, List.mem_singleton, exists_eq_left, height]
      omega
  | record entries =>
      have inside := exists_entryNode_on_level (depth + 1) level entries
      simp only [nodes, List.mem_cons, exists_eq_or_imp, inside, height]
      omega
  | list items =>
      have inside := exists_itemNode_on_level (depth + 1) level items
      simp only [nodes, List.mem_cons, exists_eq_or_imp, inside, height]
      omega

theorem exists_entryNode_on_level (depth level : Nat) (entries : List (String × Tree α)) :
    (∃ visit ∈ entryNodes depth entries, visit.depth = level) ↔
      depth ≤ level ∧ level < depth + entriesHeight entries := by
  match entries with
  | [] => simp [entryNodes, entriesHeight]
  | (_, tree) :: rest =>
      have here := exists_node_on_level depth level tree
      have later := exists_entryNode_on_level depth level rest
      simp only [entryNodes, List.mem_append, or_and_right, exists_or, here, later, entriesHeight]
      omega

theorem exists_itemNode_on_level (depth level : Nat) (items : List (Tree α)) :
    (∃ visit ∈ itemNodes depth items, visit.depth = level) ↔
      depth ≤ level ∧ level < depth + itemsHeight items := by
  match items with
  | [] => simp [itemNodes, itemsHeight]
  | tree :: rest =>
      have here := exists_node_on_level depth level tree
      have later := exists_itemNode_on_level depth level rest
      simp only [itemNodes, List.mem_append, or_and_right, exists_or, here, later, itemsHeight]
      omega

end

end Tree

namespace Ruleset

structure Covers {α β : Type} (visits nodes : List (Tree.Visit α)) (answer : Except Diagnostic β) :
    Prop where
  initial : visits <+: nodes
  whole : answer.isOk → visits = nodes

namespace Covers

variable {α β γ : Type} {visits nodes : List (Tree.Visit α)} {first : Except Diagnostic β}

theorem refl : Covers nodes nodes first := ⟨List.prefix_rfl, fun _ => rfl⟩

theorem cons {next : β → Except Diagnostic γ} (visit : Tree.Visit α)
    (inside : Covers visits nodes first) :
    Covers (visit :: visits) (visit :: nodes) (first.bind next) where
  initial := (List.prefix_cons_inj visit).mpr inside.initial
  whole done := by
    cases first with
    | error => exact absurd done Bool.false_ne_true
    | ok => rw [inside.whole rfl]

theorem append {further more : List (Tree.Visit α)} {later : Except Diagnostic γ} {δ : Type}
    {change : β → γ → δ} (here : Covers visits nodes first) (behind : Covers further more later) :
    Covers (visits ++ if first.isOk then further else []) (nodes ++ more)
      (first.bind fun result => later.map (change result)) := by
  cases first with
  | error =>
      constructor
      · simpa [Except.isOk, Except.toBool] using here.initial.trans (List.prefix_append nodes more)
      · simp [Except.isOk, Except.toBool, Except.bind]
  | ok =>
      rw [here.whole rfl]
      constructor
      · exact (List.prefix_append_right_inj nodes).mpr behind.initial
      · intro done
        cases later with
        | error => exact absurd done Bool.false_ne_true
        | ok => exact congrArg (nodes ++ ·) (behind.whole rfl)

end Covers

section

variable {α : Type} (ruleset : Ruleset α) (setting : Setting α)

/-- An answer for which a pass comes to `visits`, if nodes beyond the limit are refused. -/
def limited {β : Type} (visits : List (Tree.Visit α)) (answer : Except Diagnostic β) :
    Except Diagnostic β :=
  match visits.find? (ruleset.maxDepth ≤ ·.depth) with
  | none => answer
  | some visit => .error (tooDeep setting ruleset.maxDepth visit.tree)

variable {ruleset setting} {β γ : Type} {depth : Nat} {visits more : List (Tree.Visit α)}
  {answer : Except Diagnostic β}

theorem limited_of_within (within : ∀ visit ∈ visits, visit.depth < ruleset.maxDepth) :
    ruleset.limited setting visits answer = answer := by
  have none : visits.find? (ruleset.maxDepth ≤ ·.depth) = none := by simpa using within
  simp only [limited, none]

theorem limited_of_found {visit : Tree.Visit α}
    (found : visits.find? (ruleset.maxDepth ≤ ·.depth) = some visit) :
    ruleset.limited setting visits answer =
      .error (tooDeep setting ruleset.maxDepth visit.tree) := by
  simp only [limited, found]

theorem limited_nil : ruleset.limited setting [] answer = answer := rfl

theorem limited_cons {tree : Tree α} :
    ruleset.limited setting (⟨depth, tree⟩ :: visits) answer =
      if ruleset.maxDepth ≤ depth then .error (tooDeep setting ruleset.maxDepth tree)
      else ruleset.limited setting visits answer := by
  by_cases beyond : ruleset.maxDepth ≤ depth
  · simp [limited, beyond]
  · simp [limited, beyond]

theorem limited_append :
    ruleset.limited setting (visits ++ more) answer =
      ruleset.limited setting visits (ruleset.limited setting more answer) := by
  simp only [limited, List.find?_append]
  cases visits.find? (ruleset.maxDepth ≤ ·.depth) with
  | none | some => simp

theorem limited_bind {next : β → Except Diagnostic γ} :
    ruleset.limited setting visits (answer.bind next) =
      (ruleset.limited setting visits answer).bind next := by
  simp only [limited]
  cases visits.find? (ruleset.maxDepth ≤ ·.depth) with
  | none | some => simp [Except.bind]

theorem limited_map {change : β → γ} :
    ruleset.limited setting visits (answer.map change) =
      (ruleset.limited setting visits answer).map change := by
  simp only [limited]
  cases visits.find? (ruleset.maxDepth ≤ ·.depth) with
  | none | some => simp [Except.map]

/-- What comes after an answer is come to only if the answer is a result. -/
theorem limited_then {next : β → Except Diagnostic γ} :
    ruleset.limited setting (visits ++ if answer.isOk then more else []) (answer.bind next) =
      (ruleset.limited setting visits answer).bind
        fun result => ruleset.limited setting more (next result) := by
  -- behind an error there are no visits left, so that the limit has nothing to refuse there
  rw [limited_append, ← limited_bind]
  cases answer with
  | ok | error => rfl

end

variable {α : Type} [BEq α] (ruleset : Ruleset α) (setting : Setting α)

/-! The same pass without a limit on depth. -/

def fitting? (tree : Tree α) : Option (TreeRule α × Bindings α) :=
  ruleset.rules.findSome? fun rule => (rule.shape.match? tree).map (rule, ·)

def replace (tree : Tree α) : Except Diagnostic (Tree α) :=
  match ruleset.fitting? tree with
  | none => .ok tree
  | some (rule, bindings) =>
      match (rule.build.run bindings).1 with
      | .ok built => .ok built
      | .error error => .error (malformed setting rule tree error)

mutual

def rewrite : Tree α → Except Diagnostic (Tree α)
  | .atom slice => ruleset.replace setting (.atom slice)
  | .value content => ruleset.replace setting (.value content)
  | .record entries =>
      (rewriteEntries entries).bind fun rewritten => ruleset.replace setting (.record rewritten)
  | .list items =>
      (rewriteItems items).bind fun rewritten => ruleset.replace setting (.list rewritten)

def rewriteEntries : List (String × Tree α) → Except Diagnostic (List (String × Tree α))
  | [] => .ok []
  | (name, tree) :: rest =>
      (rewrite tree).bind fun rewritten => (rewriteEntries rest).map ((name, rewritten) :: ·)

def rewriteItems : List (Tree α) → Except Diagnostic (List (Tree α))
  | [] => .ok []
  | tree :: rest =>
      (rewrite tree).bind fun rewritten => (rewriteItems rest).map (rewritten :: ·)

end

mutual

/-- The nodes that the pass comes to before a rule fails to build. -/
def met (depth : Nat) : Tree α → List (Tree.Visit α)
  | .atom slice => [⟨depth, .atom slice⟩]
  | .value content => [⟨depth, .value content⟩]
  | .record entries => ⟨depth, .record entries⟩ :: metEntries (depth + 1) entries
  | .list items => ⟨depth, .list items⟩ :: metItems (depth + 1) items

def metEntries (depth : Nat) : List (String × Tree α) → List (Tree.Visit α)
  | [] => []
  | (_, tree) :: rest =>
      met depth tree ++ if (ruleset.rewrite setting tree).isOk then metEntries depth rest else []

def metItems (depth : Nat) : List (Tree α) → List (Tree.Visit α)
  | [] => []
  | tree :: rest =>
      met depth tree ++ if (ruleset.rewrite setting tree).isOk then metItems depth rest else []

end

def RuleRefuses (diagnostic : Diagnostic) : Prop :=
  ∃ rule ∈ ruleset.rules, ∃ (tree : Tree α) (bindings : Bindings α) (error : BindingError),
    rule.shape.match? tree = some bindings ∧ (rule.build.run bindings).1 = .error error ∧
      diagnostic = malformed setting rule tree error

variable {ruleset setting} {depth : Nat}

theorem replace_eq_reduceNode (tree : Tree α) :
    ruleset.replace setting tree = reduceNode setting ruleset.rules tree := by
  obtain ⟨rules, maxDepth⟩ := ruleset
  simp only [replace, fitting?]
  induction rules with
  | nil => rfl
  | cons rule rest ih =>
      rw [reduceNode, List.findSome?_cons]
      cases fit : rule.shape.match? tree with
      | none => exact ih
      | some bindings =>
          cases built : (rule.build.run bindings).1 with
          | ok | error => simp [built]

def OnlyRulesRefuse (ruleset : Ruleset α) (setting : Setting α) {β : Type}
    (answer : Except Diagnostic β) : Prop :=
  ∀ diagnostic, answer = .error diagnostic → ruleset.RuleRefuses setting diagnostic

namespace OnlyRulesRefuse

variable {β γ : Type} {first : Except Diagnostic β}

theorem ok (result : β) : ruleset.OnlyRulesRefuse setting (.ok result) := by
  simp [OnlyRulesRefuse]

theorem bind {next : β → Except Diagnostic γ} (here : ruleset.OnlyRulesRefuse setting first)
    (behind : ∀ result, ruleset.OnlyRulesRefuse setting (next result)) :
    ruleset.OnlyRulesRefuse setting (first.bind next) := by
  cases first with
  | ok result => exact behind result
  | error diagnostic => simpa [OnlyRulesRefuse, Except.bind] using here

theorem map {change : β → γ} (here : ruleset.OnlyRulesRefuse setting first) :
    ruleset.OnlyRulesRefuse setting (first.map change) := by
  cases first with
  | ok result => exact ok (change result)
  | error diagnostic => simpa [OnlyRulesRefuse, Except.map] using here

theorem replace (tree : Tree α) :
    ruleset.OnlyRulesRefuse setting (ruleset.replace setting tree) := by
  intro diagnostic refused
  rw [Ruleset.replace] at refused
  cases found : ruleset.fitting? tree with
  | none => simp [found] at refused
  | some fitting =>
      obtain ⟨rule, member, fit⟩ := List.exists_of_findSome?_eq_some found
      obtain ⟨bindings, matched, rfl⟩ := Option.map_eq_some_iff.mp fit
      cases built : (rule.build.run bindings).1 with
      | ok => simp [found, built] at refused
      | error error =>
          simp only [found, built, Except.error.injEq] at refused
          exact ⟨rule, member, tree, bindings, error, matched, built, refused.symm⟩

mutual

theorem rewrite (tree : Tree α) :
    ruleset.OnlyRulesRefuse setting (ruleset.rewrite setting tree) := by
  match tree with
  | .atom _ | .value _ =>
      rw [Ruleset.rewrite]
      exact replace _
  | .record entries =>
      rw [Ruleset.rewrite]
      exact (rewriteEntries entries).bind fun _ => replace _
  | .list items =>
      rw [Ruleset.rewrite]
      exact (rewriteItems items).bind fun _ => replace _

theorem rewriteEntries (entries : List (String × Tree α)) :
    ruleset.OnlyRulesRefuse setting (ruleset.rewriteEntries setting entries) := by
  match entries with
  | [] => exact ok []
  | (_, tree) :: rest =>
      rw [Ruleset.rewriteEntries]
      exact (rewrite tree).bind fun _ => (rewriteEntries rest).map

theorem rewriteItems (items : List (Tree α)) :
    ruleset.OnlyRulesRefuse setting (ruleset.rewriteItems setting items) := by
  match items with
  | [] => exact ok []
  | tree :: rest =>
      rw [Ruleset.rewriteItems]
      exact (rewrite tree).bind fun _ => (rewriteItems rest).map

end

end OnlyRulesRefuse

namespace Covers

mutual

theorem met (depth : Nat) (tree : Tree α) :
    Covers (ruleset.met setting depth tree) (tree.nodes depth) (ruleset.rewrite setting tree) := by
  match tree with
  | .atom _ | .value _ =>
      rw [Ruleset.met, Tree.nodes]
      exact refl
  | .record entries =>
      rw [Ruleset.met, Tree.nodes, rewrite]
      exact (metEntries (depth + 1) entries).cons _
  | .list items =>
      rw [Ruleset.met, Tree.nodes, rewrite]
      exact (metItems (depth + 1) items).cons _

theorem metEntries (depth : Nat) (entries : List (String × Tree α)) :
    Covers (ruleset.metEntries setting depth entries) (Tree.entryNodes depth entries)
      (ruleset.rewriteEntries setting entries) := by
  match entries with
  | [] => exact refl
  | (_, tree) :: rest =>
      rw [Ruleset.metEntries, Tree.entryNodes, rewriteEntries]
      exact (met depth tree).append (metEntries depth rest)

theorem metItems (depth : Nat) (items : List (Tree α)) :
    Covers (ruleset.metItems setting depth items) (Tree.itemNodes depth items)
      (ruleset.rewriteItems setting items) := by
  match items with
  | [] => exact refl
  | tree :: rest =>
      rw [Ruleset.metItems, Tree.itemNodes, rewriteItems]
      exact (met depth tree).append (metItems depth rest)

end

end Covers

mutual

/-- A reduction is the pass, cut off at the first node beyond the limit. -/
theorem reduce_eq_limited (depth : Nat) (tree : Tree α) :
    ruleset.reduce setting depth tree =
      ruleset.limited setting (ruleset.met setting depth tree) (ruleset.rewrite setting tree) := by
  match tree with
  | .atom _ | .value _ => rw [reduce, met, limited_cons, limited_nil, rewrite, replace_eq_reduceNode]
  | .record entries =>
      rw [reduce, met, limited_cons, rewrite, limited_bind, ← reduceEntries_eq_limited]
      simp only [replace_eq_reduceNode]
      cases ruleset.reduceEntries setting (depth + 1) entries with
      | ok | error => rfl
  | .list items =>
      rw [reduce, met, limited_cons, rewrite, limited_bind, ← reduceItems_eq_limited]
      simp only [replace_eq_reduceNode]
      cases ruleset.reduceItems setting (depth + 1) items with
      | ok | error => rfl

theorem reduceEntries_eq_limited (depth : Nat) (entries : List (String × Tree α)) :
    ruleset.reduceEntries setting depth entries =
      ruleset.limited setting (ruleset.metEntries setting depth entries)
        (ruleset.rewriteEntries setting entries) := by
  match entries with
  | [] => rfl
  | (name, tree) :: rest =>
      rw [reduceEntries_eq_bind, metEntries, rewriteEntries, limited_then, ← reduce_eq_limited]
      simp only [limited_map, ← reduceEntries_eq_limited]

theorem reduceItems_eq_limited (depth : Nat) (items : List (Tree α)) :
    ruleset.reduceItems setting depth items =
      ruleset.limited setting (ruleset.metItems setting depth items)
        (ruleset.rewriteItems setting items) := by
  match items with
  | [] => rfl
  | tree :: rest =>
      rw [reduceItems_eq_bind, metItems, rewriteItems, limited_then, ← reduce_eq_limited]
      simp only [limited_map, ← reduceItems_eq_limited]

end

theorem depth_of_mem_met {tree : Tree α} {visit : Tree.Visit α}
    (member : visit ∈ ruleset.met setting depth tree) : visit.depth < depth + tree.height := by
  have covers : Covers _ _ (ruleset.rewrite setting tree) := Covers.met depth tree
  have levels := (Tree.exists_node_on_level depth visit.depth tree).mp
    ⟨visit, covers.initial.subset member, rfl⟩
  exact levels.2

/-- The nodes of a tree that is not too high are all within the limit. -/
theorem met_within {tree : Tree α} (low : tree.height ≤ ruleset.maxDepth) :
    ∀ visit ∈ ruleset.met setting 0 tree, visit.depth < ruleset.maxDepth := by
  intro visit member
  have below := depth_of_mem_met member
  omega

/-- A pass that stays within the limit in a tree that is too high has been ended by a rule. -/
theorem exists_error_of_within {tree : Tree α} (high : ruleset.maxDepth < tree.height)
    (within : ∀ visit ∈ ruleset.met setting 0 tree, visit.depth < ruleset.maxDepth) :
    ∃ diagnostic, ruleset.rewrite setting tree = .error diagnostic := by
  cases rewritten : ruleset.rewrite setting tree with
  | error diagnostic => exact ⟨diagnostic, rfl⟩
  | ok =>
      have all : ruleset.met setting 0 tree = tree.nodes 0 :=
        (Covers.met 0 tree).whole (by rw [rewritten]; rfl)
      obtain ⟨visit, member, deep⟩ :=
        (Tree.exists_node_on_level 0 ruleset.maxDepth tree).mpr (by omega)
      have near := within visit (all ▸ member)
      omega

/-- The limit on depth is not noticed in a tree that is low enough. A higher tree is refused for what
the pass comes to first, a node beyond the limit or a rule that fails to build. -/
theorem apply_refines_rewrite (ruleset : Ruleset α) (setting : Setting α) (tree : Tree α) :
    (tree.height ≤ ruleset.maxDepth →
      ruleset.apply setting tree = ruleset.rewrite setting tree) ∧
    (ruleset.maxDepth < tree.height →
      (∃ visit, (ruleset.met setting 0 tree).find? (ruleset.maxDepth ≤ ·.depth) = some visit ∧
        ruleset.apply setting tree = .error (tooDeep setting ruleset.maxDepth visit.tree)) ∨
      (∀ visit ∈ ruleset.met setting 0 tree, visit.depth < ruleset.maxDepth) ∧
        ∃ diagnostic, ruleset.rewrite setting tree = .error diagnostic ∧
          ruleset.apply setting tree = .error diagnostic) ∧
    ∀ diagnostic, ruleset.rewrite setting tree = .error diagnostic →
      ruleset.RuleRefuses setting diagnostic := by
  have cut : ruleset.apply setting tree = ruleset.limited setting (ruleset.met setting 0 tree)
      (ruleset.rewrite setting tree) := reduce_eq_limited 0 tree
  refine ⟨?_, ?_, OnlyRulesRefuse.rewrite tree⟩
  · intro low
    rw [cut, limited_of_within (met_within low)]
  · intro high
    cases found : (ruleset.met setting 0 tree).find? (ruleset.maxDepth ≤ ·.depth) with
    | some visit =>
        left
        exact ⟨visit, rfl, cut.trans (limited_of_found found)⟩
    | none =>
        right
        have within : ∀ visit ∈ ruleset.met setting 0 tree, visit.depth < ruleset.maxDepth := by
          simpa using found
        obtain ⟨diagnostic, refused⟩ := exists_error_of_within high within
        rw [cut, limited_of_within within]
        exact ⟨within, diagnostic, refused, refused⟩

/-- Of a rule that cannot build and a node beyond the limit, the one that comes first is reported. -/
theorem apply_refines_rewrite_in_order :
    let setting : Setting String := ⟨none, id⟩
    let rule : TreeRule String := ⟨"x", .exact "x", throw (.invalid "unknown")⟩
    let ruleset : Ruleset String := ⟨[rule], 2⟩
    let unknown : Tree String := .atom (.whole "x")
    ruleset.apply setting (.list [unknown, .list [.list []]]) =
        .error (malformed setting rule unknown (.invalid "unknown")) ∧
      ruleset.apply setting (.list [.list [.list []], unknown]) =
        .error (tooDeep setting 2 (.list [])) := by
  intro setting rule ruleset unknown
  constructor
  · have high : ruleset.maxDepth < (Tree.list [unknown, .list [.list []]]).height := by decide
    rcases (apply_refines_rewrite ruleset setting _).2.1 high with
      ⟨visit, found, -⟩ | ⟨-, diagnostic, refused, same⟩
    · cases found
    · cases refused
      exact same
  · have high : ruleset.maxDepth < (Tree.list [.list [.list []], unknown]).height := by decide
    rcases (apply_refines_rewrite ruleset setting _).2.1 high with
      ⟨visit, found, same⟩ | ⟨within, -⟩
    · cases found
      exact same
    · have near := within ⟨2, .list []⟩ (by simp [met, metItems])
      exact absurd near (Nat.lt_irrefl 2)

example :
    (ofRules [⟨"wrap", .record [("a", .simple "x")], do
        return .record [("a", ← Builder.takeTree "x")]⟩]).apply ⟨none, id⟩
      (.record [("a", .atom (.whole "1"))] : Tree String) =
      .ok (.record [("a", .atom (.whole "1"))]) := rfl

end Ruleset

end PegText
