import PegText.Proofs.Parse.Scan
import PegText.Proofs.Parse.Semantics

/-!
The kind of what a node yields is known before anything is parsed. A node that captures nothing
yields the text it has passed, one that is said to give a list gives a list, and a repetition gives
a list exactly if its rounds may capture something, however many rounds there are.
-/

namespace PegText

variable {size : Nat} {facts : FactTable size} {rules : RuleTable size} {limited : Prop}
  {cursor next : Cursor} {output : Output}

namespace RuleTable

/-- What the facts say about a node holds of all that it yields between two places. -/
structure Decides (facts : FactTable size) (node : Node size) (cursor next : Cursor)
    (output : Output) : Prop where
  plain : node.isStructured facts = false → output = .text (cursor.sliceTo next)
  listed : node.isListed facts = true → output.isList = true
  rounds : ∀ inner least most structured, node = .repetition inner least most structured →
    (output.isList = true ↔ inner.isStructured facts = true) ∧
      (output.isList = false → output = .text (cursor.sliceTo next))

theorem Accepted.decides (accepted : rules.Accepted facts) {node : Node size}
    (within : node ∈ rules.nodes)
    (derives : rules.Derives limited (.node node) cursor (some ([output], next))) :
    Decides facts node cursor next output := by
  have fits := derives.fits accepted within output List.mem_cons_self
  have plain (nothing : node.isStructured facts = false) :=
    accepted.eq_text within nothing derives
  refine ⟨plain, fits.listed, ?_⟩
  intro inner least most structured same
  subst same
  by_cases captures : inner.isStructured facts = true
  · have list : output.isList = true := fits.listed captures
    simp [list, captures]
  · have nothing : inner.isStructured facts = false := by simpa using captures
    have text := plain nothing
    simp [text, nothing, Output.isList]

end RuleTable

namespace Grammar.Draft

/-- In a grammar that was built, the facts that its rules settle at decide of what kind the yield of
every match is: the match of any node, at any place, with any levels and any progress. -/
theorem decides_of_run {read : CharClass.Reader} {draft : Draft} {grammar : Grammar}
    (built : draft.build? read = some (.ok grammar)) :
    ∃ facts, grammar.rules.facts? = some facts ∧
      ∀ node ∈ grammar.rules.nodes, ∀ levels cursor progress output next,
        (grammar.rules.run levels node cursor progress).1 = .matched output next →
          RuleTable.Decides facts node cursor next output := by
  obtain ⟨facts, settled, accepted⟩ := settled_of_build? built
  refine ⟨facts, settled, ?_⟩
  intro node within levels cursor progress output next ended
  -- a lookahead may succeed only because its inside was too deep, so no limit is assumed
  have sound : Runner.Sound grammar.rules True (grammar.rules.run levels) :=
    RuleTable.run_sound accepted levels
  have derives := sound.derives within cursor progress (.inl trivial)
  rw [ended] at derives
  exact accepted.decides within derives

def furtherEntry : Node tableGrammar.size := .sequence [.char ',', .rule entryId]

def furtherEntries : Node tableGrammar.size := .repetition furtherEntry 0 none true

theorem furtherEntries_mem : furtherEntries ∈ tableGrammar.rules.nodes :=
  RuleTable.mem_nodes.mpr
    ⟨tableId, Node.mem_nodes_sequence (List.mem_cons_of_mem _ List.mem_cons_self)⟩

/-- At the end of a text there are no further entries, and still they are a list. -/
theorem decides_of_run_table :
    table.build? CharClass.read = some (.ok tableGrammar) ∧
      furtherEntries ∈ tableGrammar.rules.nodes ∧
      (tableGrammar.rules.run 20 furtherEntries ⟨3, []⟩ .initial).1 =
        .matched (.list []) ⟨3, []⟩ ∧
      ∃ facts, tableGrammar.rules.facts? = some facts ∧
        RuleTable.Decides facts furtherEntries ⟨3, []⟩ ⟨3, []⟩ (.list []) ∧
          furtherEntry.isStructured facts = true := by
  have ended : (tableGrammar.rules.run 20 furtherEntries ⟨3, []⟩ .initial).1 =
      .matched (.list []) ⟨3, []⟩ := by
    rfl
  obtain ⟨facts, settled, decides⟩ := decides_of_run build?_table
  have here := decides furtherEntries furtherEntries_mem 20 ⟨3, []⟩ .initial _ _ ended
  have captures := (here.rounds furtherEntry 0 none true rfl).1.mp rfl
  exact ⟨build?_table, furtherEntries_mem, ended, facts, settled, here, captures⟩

end Grammar.Draft

end PegText
