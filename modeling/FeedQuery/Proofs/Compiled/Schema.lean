import FeedQuery.Proofs.Compiled
import FeedQuery.Proofs.Derivation
import FeedQuery.Proofs.Tree

/-!
# The shape of the tree of any tokens

Each node of the tree of any tokens has the shape of its kind, and an error node without a token
stands where something is missing (`Tree.schema_ofTokens`).
-/

namespace FeedQuery.Derivation

/-!
## Where something is missing

An error node without a token stands for an operand that is not there. It is made only in front of a
clause, whose word gets a message, or at the end, where the message is left for the query as a whole
(`Skip.stops`). Later rules keep the tokens and the messages, so this is still so when the query is
at its end: `Marked` is what each rule says of the trees that it makes, and `Marked.append` puts two
rules together.
-/

open Grammar FeedQuery.Tree

/-- Nothing more can be read of an expression: a clause starts, with a message on its word, or the
tokens end, with a message about the end. -/
def Stops : List Token → List String → Prop
  | [], late => late ≠ []
  | t :: _, _ => t.kind.startsClause = true ∧ t.errors ≠ []

/-- Tokens keep their messages, and further messages about the end come before or behind those that
are there. -/
theorem Stops.mono {ts us : List Token} {late late' : List String} (h : Stops ts late)
    (hext : ExtendTo ts us) (hlate : late <:+: late') : Stops us late' := by
  cases hext with
  | nil => exact fun hnil => h (List.infix_nil.1 (hnil ▸ hlate))
  | cons ht =>
    obtain ⟨hclause, herrors⟩ := h
    refine ⟨ht.kind ▸ hclause, fun hnil => herrors ?_⟩
    exact List.prefix_nil.1 (hnil ▸ ht.errors)

/-- Where an error node without a token stands in the trees, nothing more could be read. -/
structure Marked (trees : List Tree) (rest : List Token) (late : List String) : Prop where
  stops : ∀ errors after, HoldsOf (.node .errorTree [] errors) trees after →
    Stops (after ++ rest) late

namespace Marked

variable {trees trees' : List Tree} {rest ts₁ : List Token} {late late₁ late₂ : List String}

/-- Nothing is missing where there is no tree. -/
theorem nil : Marked [] rest late := ⟨fun _ _ h => absurd h not_holdsOf_nil⟩

/-- Tokens are no error nodes. -/
theorem leaves (us : List Token) : Marked (us.map .leaf) rest late := by
  refine ⟨?_⟩
  rintro errors after ⟨ts, c, vs, after', hts, h, rfl⟩
  obtain ⟨t, -, rfl⟩ := List.mem_map.1 (hts ▸ List.mem_append_right ts (List.mem_cons_self ..))
  cases (holds_leaf.1 h).1

/-- One rule after the other: the tokens that the first one leaves go into the second one's trees or
are left again. -/
theorem append (h : Marked trees ts₁ late₁) (hext : ExtendTo ts₁ (leavesOf trees' ++ rest))
    (h' : Marked trees' rest late₂) : Marked (trees ++ trees') rest (late₁ ++ late₂) := by
  refine ⟨fun errors after hsub => ?_⟩
  obtain ⟨after', hsub', rfl⟩ | hsub' := holdsOf_append.1 hsub
  · rw [List.append_assoc]
    exact (h.stops errors after' hsub').mono (.append_left after' hext)
      (List.prefix_append ..).isInfix
  · exact (h'.stops errors after hsub').mono (ExtendTo.refl _) (List.suffix_append ..).isInfix

/-- A tree that is complete comes before the trees of a rule. -/
theorem cons {t : Tree} (ht : Marked [t] (leavesOf trees ++ rest) [])
    (h : Marked trees rest late) : Marked (t :: trees) rest late :=
  ht.append (ExtendTo.refl _) h

/-- A token in front of trees is no error node. -/
theorem cons_leaf (t : Token) (h : Marked trees rest late) : Marked (.leaf t :: trees) rest late :=
  cons (leaves [t]) h

/-- A node with children, or of another kind, says what its children say. -/
theorem node {kind : NodeKind} {children : List Tree} {errors : List String}
    (h : Marked children rest late) (hne : kind ≠ .errorTree ∨ children ≠ []) :
    Marked [.node kind children errors] rest late := by
  refine ⟨fun errors' after hsub => ?_⟩
  obtain ⟨after', hsub', rfl⟩ | hnil := holdsOf_cons.1 hsub
  · rw [leavesOf, List.append_nil]
    obtain ⟨heq, -⟩ | hchild := holds_node.1 hsub'
    · cases heq
      simp at hne
    · exact h.stops errors' after' hchild
  · exact absurd hnil not_holdsOf_nil

/-- A token in an error node misses nothing. -/
theorem error (t : Token) : Marked [.node .errorTree [.leaf t] []] rest late :=
  node (leaves [t]) (.inr (List.cons_ne_nil _ _))

/-- An error node without a token stands where nothing more can be read. -/
theorem missing (h : Stops rest late) : Marked [.node .errorTree [] []] rest late := by
  refine ⟨fun errors after hsub => ?_⟩
  obtain ⟨after', hsub', rfl⟩ | hnil := holdsOf_cons.1 hsub
  · obtain ⟨-, rfl⟩ | hnil := holds_node.1 hsub'
    · exact h
    · exact absurd hnil not_holdsOf_nil
  · exact absurd hnil not_holdsOf_nil

end Marked

/-! ### The rules -/

/-- A rule that takes no token in place of the one it looked for has stopped. -/
theorem Skip.stops (h : Skip message ts trees rest late) :
    (trees = [] ∧ Stops rest late) ∨ ∃ t, trees = [.leaf t] := by
  cases h with
  | clause hc => exact .inl ⟨rfl, hc, by simp [Token.withError]⟩
  | other => exact .inr ⟨_, rfl⟩
  | ending => exact .inl ⟨rfl, List.cons_ne_nil _ _⟩

/-- An operand is missing only where nothing more can be read. -/
theorem Operand.marked (h : Operand ts tree rest late) : Marked [tree] rest late := by
  cases h with
  | name | string => exact .node (.leaves [_]) (.inl (by decide))
  | broken _ h =>
    obtain ⟨rfl, hstops⟩ | ⟨t, rfl⟩ := h.stops
    · exact .missing hstops
    · exact .error t

/-- The tree on the left of the operators has been read before them, with messages `late₀`. -/
theorem Operators.marked (h : Operators left lhs ts tree rest late) {late₀ : List String}
    (hlhs : Marked [lhs] ts late₀) : Marked [tree] rest (late₀ ++ late) := by
  induction h generalizing late₀ with
  | ending | stop => rwa [List.append_nil]
  | @more left lhs first rhs tree op ts ts₁ ts₂ rest late₁ late₂ late₃ _ hfirst hrhs _ ih₁ ih₂ =>
    have hkeeps : ExtendTo (op :: ts) (leavesOf [.leaf op, rhs] ++ ts₂) := by
      simpa [leavesOf, Tree.leaves] using ⟨.refl op, hrhs.extends_operand hfirst⟩
    have hright : Marked [.leaf op, rhs] ts₂ (late₁ ++ late₂) := .cons_leaf op (ih₁ hfirst.marked)
    have hbinary : Marked [.node .exprBinary [lhs, .leaf op, rhs] []] ts₂ (late₀ ++ _) :=
      .node (hlhs.append hkeeps hright) (.inl (by decide))
    simpa only [List.append_assoc] using ih₂ hbinary

/-- The operands of an expression are missing only where nothing more can be read. -/
theorem Expression.marked (h : Expression ts tree rest late) : Marked [tree] rest late := by
  obtain ⟨hfirst, hops⟩ := h
  exact hops.marked hfirst.marked

/-- A field is missing only where nothing more can be read. -/
theorem Field.marked (h : Field ts trees rest late) : Marked trees rest late := by
  cases h with
  | star => exact .leaves [_]
  | comma => exact .nil
  | expression _ h => exact h.marked

/-- A field after the first one is missing only where nothing more can be read. -/
theorem MoreFields.marked (h : MoreFields ts trees rest late) : Marked trees rest late := by
  induction h with
  | ending | clause => exact .nil
  | comma _ hfield hmore ih => exact .cons_leaf _ (hfield.marked.append hmore.extends ih)
  | missing _ hfield hmore ih => exact hfield.marked.append hmore.extends ih
  | stray _ _ _ _ ih => exact .cons (.error _) ih

/-- The fields are missing something only where nothing more can be read. -/
theorem FieldList.marked (h : FieldList ts tree rest late) : Marked [tree] rest late := by
  obtain ⟨hfield, hmore⟩ := h
  exact (hfield.marked.append hmore.extends hmore.marked).node (.inl (by decide))

/-- A token in place of an expected one is in no error node. -/
theorem Expect.marked (h : Expect kind message ts trees rest late) : Marked trees rest late := by
  cases h with
  | found => exact .leaves [_]
  | missing _ h =>
    obtain ⟨rfl, -⟩ | ⟨t, rfl⟩ := h.stops
    · exact .nil
    · exact .leaves [t]

/-- The clause of the table has no error node. -/
theorem TableClause.marked (h : TableClause ts trees rest late) : Marked trees rest late := by
  cases h with
  | absent => exact .nil
  | present _ h => exact (h.marked.cons_leaf _).node (.inl (by decide))

/-- The condition is missing something only where nothing more can be read. -/
theorem ConditionClause.marked (h : ConditionClause ts trees rest late) :
    Marked trees rest late := by
  cases h with
  | absent => exact .nil
  | present _ h => exact (h.marked.cons_leaf _).node (.inl (by decide))

/-- An error node of what is left over holds a token. -/
theorem marked_leftoverTrees (ts : List Token) : Marked (leftoverTrees ts) [] [] := by
  induction ts with
  | nil => exact .nil
  | cons t ts ih => exact .cons (.error _) ih

/-- A statement is missing something only where nothing more can be read. -/
theorem Statement.marked (h : Statement ts tree late) : Marked [tree] [] late := by
  obtain ⟨hselect, hfields, htable, hcondition⟩ := h
  have hclauses := extends_append htable.extends hcondition.extends
  have hrest := extends_append hclauses (extends_leftoverTrees _)
  have hlist := hfields.extends
  rw [← leavesOf_singleton] at hlist
  have hmarked := (htable.marked.append hcondition.extends hcondition.marked).append
    (extends_leftoverTrees _) (marked_leftoverTrees _)
  have hall := hselect.marked.append (extends_append hlist hrest)
    (hfields.marked.append hrest hmarked)
  refine .node ?_ (.inl (by decide))
  simpa only [List.append_assoc, List.append_nil, List.singleton_append] using hall

end FeedQuery.Derivation

namespace FeedQuery

/-!
## The schema of the tree of any tokens

The derivation of tokens gives the shape of each node of their tree (`Tree.Schema`) and what comes
behind an error node without a token (`Derivation.Marked`). `Tree.schema_ofTokens` puts the two
together for the tree that is built from the trace.
-/

open FeedQuery.Derivation

/-- The words that start a clause are `FROM` and `WHERE`. -/
theorem TokenKind.startsClause_iff {kind : TokenKind} :
    kind.startsClause = true ↔ kind = .kwFrom ∨ kind = .kwWhere := by
  cases kind <;> decide

/-- Where nothing more could be read, something is wrong with the tree. -/
theorem Tree.diagnostics_ne_nil_of_stops {tree : Tree} (h : Stops after tree.nodeErrors)
    (hafter : ∀ t ∈ after.head?, t ∈ tree.leaves) : tree.diagnostics ≠ [] := by
  rw [Ne, tree.diagnostics_eq_nil_iff]
  rintro ⟨hleaves, hnodes⟩
  cases after with
  | nil => exact h hnodes
  | cons t after => exact h.2 (hleaves t (hafter t rfl))

/-- What an error node says about the tree of a query: there is a mistake, and it is in the token of
the node or, where the node has none, in what comes behind it. -/
theorem Derivation.File.of_errorTree (h : File ts (.node .file statement []) late)
    {children : List Tree} {errors : List String}
    (hsub : (Tree.node .errorTree children errors).HoldsOf statement after)
    (hschema : Tree.Schema .errorTree children)
    (hleaves : Tree.leavesOf statement = before ++ (Tree.leavesOf children ++ after)) :
    (Tree.node .file statement late).diagnostics ≠ [] ∧
      (children = [] → ∀ t ∈ after.head?, t.kind = .kwFrom ∨ t.kind = .kwWhere) := by
  obtain ⟨hstatement⟩ := h
  cases hschema with
  | @error t ht =>
    refine ⟨fun hnil => ht (((Tree.diagnostics_eq_nil_iff _).1 hnil).1 t ?_), nofun⟩
    rw [Tree.leaves, hleaves]
    simp [Tree.leavesOf, Tree.leaves]
  | missing =>
    have hstops := hstatement.marked.stops errors after hsub
    rw [List.append_nil] at hstops
    refine ⟨?_, fun _ t ht => ?_⟩
    · refine Tree.diagnostics_ne_nil_of_stops
        (hstops.mono (ExtendTo.refl _) (List.suffix_append ..).isInfix) fun t ht => ?_
      rw [Tree.leaves, hleaves]
      exact List.mem_append_right _ (List.mem_append_right _ (List.mem_of_mem_head? ht))
    · cases after with
      | nil => cases ht
      | cons u us =>
        cases ht
        exact TokenKind.startsClause_iff.1 hstops.1

/-- **Every node of the tree of any tokens is one that the grammar makes.** An error node without a
token stands in front of a clause or at the end only, and with any error node something is wrong
with the tree. -/
theorem Tree.schema_ofTokens (tokens : List Token) :
    ∃ tree, Tree.ofTrace (Trace.ofTokens tokens) = .ok tree ∧ ExtendTo tokens tree.leaves ∧
      ∀ kind children errors after, Holds (.node kind children errors) tree after →
        Schema kind children ∧
        (∃ before, tree.leaves = before ++ (leavesOf children ++ after)) ∧
        (kind = .errorTree → tree.diagnostics ≠ [] ∧
          (children = [] → ∀ t ∈ after.head?, t.kind = .kwFrom ∨ t.kind = .kwWhere)) := by
  obtain ⟨tree, late, h⟩ := exists_file tokens
  obtain ⟨statement, rfl, hg⟩ := h.grammatical
  refine ⟨_, h.ofTrace_eq, h.extends, fun kind children errors after hsub => ?_⟩
  have hlicensed : (node .file [.node .selectStmt statement []] late).Licensed
      fun kind children _ => Schema kind children := by
    obtain ⟨-, hc⟩ := (licensed_node ..).1 (hg.mono fun _ _ _ hnode => hnode.2)
    exact (licensed_node ..).2 ⟨.file, hc⟩
  have hschema := ((licensed_node ..).1 (hlicensed.of_holds hsub)).1
  obtain ⟨before, hleaves⟩ := hsub.exists_before
  refine ⟨hschema, ⟨before, hleaves⟩, ?_⟩
  rintro rfl
  obtain ⟨hroot, -⟩ | hsub := holds_node.1 hsub
  · cases hroot
  · exact h.of_errorTree hsub hschema hleaves

end FeedQuery
