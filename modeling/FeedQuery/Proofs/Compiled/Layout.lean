import FeedQuery.Proofs.Compiled
import FeedQuery.Proofs.Derivation
import FeedQuery.Proofs.Token.Layout
import FeedQuery.Proofs.Token.Scan

/-!
# Texts that differ in their blanks

A text means the same whatever the blanks between its tokens (`Compiled.ofText_write`), since
neither the grammar nor what is read from a tree looks at the places of tokens.
-/

namespace FeedQuery

/-!
## Trees without places

No rule of the grammar looks at the places of tokens. What is derived from tokens without their
places is therefore what is derived from the tokens, without the places (`Derivation.File.unplaced`
for whole queries, and one lemma for each rule before it).
-/

namespace Tree

mutual

/-- The tree without the places of its tokens. -/
def unplaced : Tree → Tree
  | .leaf t => .leaf t.unplaced
  | .node kind children errors => .node kind (unplacedOf children) errors

/-- The trees of a list without the places of their tokens. -/
def unplacedOf : List Tree → List Tree
  | [] => []
  | t :: rest => unplaced t :: unplacedOf rest

end

/-- The trees of a list lose their places one by one. -/
theorem unplacedOf_eq_map (ts : List Tree) : unplacedOf ts = ts.map unplaced := by
  induction ts with
  | nil => rfl
  | cons t ts ih => rw [unplacedOf, ih, List.map_cons]

@[simp] theorem unplaced_leaf (t : Token) : (leaf t).unplaced = .leaf t.unplaced := rfl

@[simp] theorem unplaced_node (kind : NodeKind) (children : List Tree) (errors : List String) :
    (node kind children errors).unplaced = .node kind (children.map unplaced) errors := by
  rw [unplaced, unplacedOf_eq_map]

/-- A tree that is a token without its place is a token. -/
theorem unplaced_eq_leaf : ∀ {t : Tree}, t.unplaced = .leaf u → ∃ u', t = .leaf u'
  | .leaf u', _ => ⟨u', rfl⟩

/-- A tree that is a node without its places is a node of that kind, with the same messages. -/
theorem unplaced_eq_node {kind : NodeKind} {children : List Tree} {errors : List String} :
    ∀ {t : Tree}, t.unplaced = .node kind children errors →
      ∃ children', t = .node kind children' errors ∧ children'.map unplaced = children
  | .node _ children' _, h => by
    rw [unplaced_node] at h
    cases h
    exact ⟨children', rfl, rfl⟩

@[simp] theorem kind?_unplaced (t : Tree) : t.unplaced.kind? = t.kind? := by
  cases t <;> simp [kind?]

@[simp] theorem isNode_unplaced (t : Tree) : t.unplaced.isNode = t.isNode := by simp [isNode]

@[simp] theorem token?_unplaced (t : Tree) : t.unplaced.token? = t.token?.map Token.unplaced := by
  cases t <;> simp [token?]

@[simp] theorem children_unplaced (t : Tree) : t.unplaced.children = t.children.map unplaced := by
  cases t <;> simp [children]

/-- The tokens of a tree without places. -/
theorem leaves_unplaced (t : Tree) : t.unplaced.leaves = t.leaves.map Token.unplaced := by
  induction t using Tree.induct with
  | leaf => rfl
  | node kind children errors ih =>
    rw [unplaced_node, leaves, leaves, leavesOf_eq_flatMap, leavesOf_eq_flatMap, List.flatMap_map,
      List.map_flatMap]
    exact List.flatMap_congr ih

/-- The messages on nodes have no places. -/
theorem nodeErrors_unplaced (t : Tree) : t.unplaced.nodeErrors = t.nodeErrors := by
  induction t using Tree.induct with
  | leaf => rfl
  | node kind children errors ih =>
    rw [unplaced_node, nodeErrors, nodeErrors, nodeErrorsOf_eq_flatMap, nodeErrorsOf_eq_flatMap,
      List.flatMap_map, List.flatMap_congr ih]

/-- What is wrong with a tree, apart from where. -/
theorem map_message_diagnostics (t : Tree) :
    t.diagnostics.map (·.message) = t.leaves.flatMap (·.errors) ++ t.nodeErrors := by
  simp [diagnostics, tokenDiagnostics, List.map_flatMap, Function.comp_def]

/-- What is wrong with a tree does not depend on places. -/
theorem map_message_diagnostics_unplaced (t : Tree) :
    t.unplaced.diagnostics.map (·.message) = t.diagnostics.map (·.message) := by
  rw [map_message_diagnostics, map_message_diagnostics, leaves_unplaced, nodeErrors_unplaced,
    List.flatMap_map]
  rfl

end Tree

namespace Derivation

open Grammar

/-- What the next token is like does not depend on its place. -/
theorem head?_unplaced {p : Token → Prop} {ts : List Token} (hp : ∀ t, p t → p t.unplaced)
    (h : ∀ t ∈ ts.head?, p t) : ∀ t ∈ (ts.map Token.unplaced).head?, p t := by
  cases ts with
  | nil => exact nofun
  | cons t ts =>
    rintro _ ⟨⟩
    exact hp t (h t rfl)

/-- Whether a token is skipped does not depend on where it stands. -/
theorem Skip.unplaced (h : Skip message ts trees rest late) :
    Skip message (ts.map Token.unplaced) (trees.map Tree.unplaced) (rest.map Token.unplaced)
      late := by
  cases h with
  | clause hc => exact .clause hc
  | other hc => exact .other hc
  | ending => exact .ending

/-- An operand is read without places as it is with them. -/
theorem Operand.unplaced (h : Operand ts tree rest late) :
    Operand (ts.map Token.unplaced) tree.unplaced (rest.map Token.unplaced) late := by
  cases h with
  | name hk => exact .name hk
  | string hk => exact .string hk
  | broken hk h =>
    rw [Tree.unplaced_node]
    exact .broken (head?_unplaced (fun _ h => h) hk) h.unplaced

/-- Operators bind by their kinds, wherever they stand. -/
theorem Operators.unplaced (h : Operators left lhs ts tree rest late) :
    Operators left lhs.unplaced (ts.map Token.unplaced) tree.unplaced (rest.map Token.unplaced)
      late := by
  induction h with
  | ending => exact .ending
  | stop hop => exact .stop hop
  | more hop hfirst _ _ ih₁ ih₂ =>
    rw [Tree.unplaced_node] at ih₂
    exact .more hop hfirst.unplaced ih₁ ih₂

/-- An expression is read without places as it is with them. -/
theorem Expression.unplaced (h : Expression ts tree rest late) :
    Expression (ts.map Token.unplaced) tree.unplaced (rest.map Token.unplaced) late := by
  obtain ⟨hfirst, hops⟩ := h
  exact .mk hfirst.unplaced hops.unplaced

/-- A field is read without places as it is with them. -/
theorem Field.unplaced (h : Field ts trees rest late) :
    Field (ts.map Token.unplaced) (trees.map Tree.unplaced) (rest.map Token.unplaced) late := by
  cases h with
  | star hk => exact .star hk
  | comma hk => exact .comma hk
  | expression hk h => exact .expression (head?_unplaced (fun _ h => h) hk) h.unplaced

/-- The fields after the first one are read without places as they are with them. -/
theorem MoreFields.unplaced (h : MoreFields ts trees rest late) :
    MoreFields (ts.map Token.unplaced) (trees.map Tree.unplaced) (rest.map Token.unplaced)
      late := by
  induction h with
  | ending => exact .ending
  | clause hc => exact .clause hc
  | comma hk hfield _ ih =>
    simp only [List.map_cons, List.map_append]
    exact .comma hk hfield.unplaced ih
  | missing hk hfield _ ih =>
    rw [List.map_append]
    exact .missing hk hfield.unplaced ih
  | stray hc hk hs _ ih => exact .stray hc hk hs ih

/-- The fields are read without places as they are with them. -/
theorem FieldList.unplaced (h : FieldList ts tree rest late) :
    FieldList (ts.map Token.unplaced) tree.unplaced (rest.map Token.unplaced) late := by
  obtain ⟨hfield, hmore⟩ := h
  rw [Tree.unplaced_node, List.map_append]
  exact .mk hfield.unplaced hmore.unplaced

/-- A token is expected by its kind, wherever it stands. -/
theorem Expect.unplaced (h : Expect kind message ts trees rest late) :
    Expect kind message (ts.map Token.unplaced) (trees.map Tree.unplaced)
      (rest.map Token.unplaced) late := by
  cases h with
  | found hk => exact .found hk
  | missing hk h => exact .missing (head?_unplaced (fun _ h => h) hk) h.unplaced

/-- The clause of the table is read without places as it is with them. -/
theorem TableClause.unplaced (h : TableClause ts trees rest late) :
    TableClause (ts.map Token.unplaced) (trees.map Tree.unplaced) (rest.map Token.unplaced)
      late := by
  cases h with
  | absent hk => exact .absent (head?_unplaced (fun _ h => h) hk)
  | present hk h =>
    rw [List.map_singleton, Tree.unplaced_node]
    exact .present hk h.unplaced

/-- The clause of the condition is read without places as it is with them. -/
theorem ConditionClause.unplaced (h : ConditionClause ts trees rest late) :
    ConditionClause (ts.map Token.unplaced) (trees.map Tree.unplaced) (rest.map Token.unplaced)
      late := by
  cases h with
  | absent hk => exact .absent (head?_unplaced (fun _ h => h) hk)
  | present hk h => exact .present hk h.unplaced

/-- What is left over stays so without places. -/
theorem map_unplaced_leftoverTrees (ts : List Token) :
    (leftoverTrees ts).map Tree.unplaced = leftoverTrees (ts.map Token.unplaced) := by
  simp only [leftoverTrees, List.map_map]
  rfl

/-- A statement is read without places as it is with them. -/
theorem Statement.unplaced (h : Statement ts tree late) :
    Statement (ts.map Token.unplaced) tree.unplaced late := by
  obtain ⟨hselect, hfields, htable, hcondition⟩ := h
  rw [Tree.unplaced_node, List.map_append, List.map_cons, List.map_append, List.map_append,
    map_unplaced_leftoverTrees]
  exact .mk hselect.unplaced hfields.unplaced htable.unplaced hcondition.unplaced

/-- **What a query is derived as does not depend on where its tokens stand.** -/
theorem File.unplaced (h : File ts tree late) :
    File (ts.map Token.unplaced) tree.unplaced late := by
  obtain ⟨h⟩ := h
  exact .mk h.unplaced

end Derivation


/-!
## The meaning of a text

A text means the same whatever the blanks between its tokens (`Compiled.ofText_write`): its tokens
are the same apart from their places (`Token.map_unplaced_scan_write`), the grammar does not look at
these (`Derivation.File.unplaced`), and neither does what is read from a tree
(`Query.ofStatement_unplaced`).
-/

open FeedQuery.Derivation

namespace Query

/-! ### Queries from trees without places -/

/-- The text of an operand has no place. -/
theorem operandText?_unplaced : ∀ t : Tree, operandText? t.unplaced = operandText? t
  | .leaf _ => rfl
  | .node kind [] _ | .node kind (.leaf _ :: _) _ | .node kind (.node .. :: _) _ => by
    cases kind <;> rfl

/-- A comparison is made of the texts of its operands. -/
theorem comparisonOf_unplaced (lhs rhs : Tree) (operator : String) :
    comparisonOf lhs.unplaced rhs.unplaced operator = comparisonOf lhs rhs operator := by
  rw [comparisonOf, operandText?_unplaced, operandText?_unplaced, comparisonOf]

/-- The conditions in a tree do not depend on places. -/
theorem conditionsIn_unplaced (t : Tree) : conditionsIn t.unplaced = conditionsIn t := by
  fun_induction conditionsIn t with
  | case1 lhs op rhs errors c hc ih ih' => simp [conditionsIn, hc, ih, ih']
  | case2 lhs op rhs errors hc hk => simp [conditionsIn, hc, if_pos hk, comparisonOf_unplaced]
  | case3 lhs op rhs errors hc hk => simp [conditionsIn, hc, hk]
  | case4 t h =>
    -- only an expression without places comes from an expression
    unfold conditionsIn
    split
    case h_1 lhs op rhs errors heq =>
      obtain ⟨children, rfl, h₁⟩ := Tree.unplaced_eq_node heq
      obtain ⟨lhs', _, rfl, -, h₂⟩ := List.map_eq_cons_iff.1 h₁
      obtain ⟨_, _, rfl, hop, h₃⟩ := List.map_eq_cons_iff.1 h₂
      obtain ⟨rhs', rfl, -⟩ := List.map_eq_singleton_iff.1 h₃
      obtain ⟨op', rfl⟩ := Tree.unplaced_eq_leaf hop
      exact absurd rfl (h lhs' op' rhs' errors)
    case h_2 => rfl

/-- The table in a clause does not depend on places. -/
theorem tableIn_unplaced (clause : Option Tree) :
    tableIn (clause.map Tree.unplaced) = tableIn clause := by
  cases clause with
  | none => rfl
  | some t =>
    simp [tableIn, List.filterMap_map, Function.comp_def, ← List.map_filterMap, List.find?_map]

/-- The conditions in a clause do not depend on places. -/
theorem conditionsInClause_unplaced (clause : Option Tree) :
    conditionsInClause (clause.map Tree.unplaced) = conditionsInClause clause := by
  cases clause with
  | none => rfl
  | some t =>
    simp only [conditionsInClause, Option.map_some, Option.getD_some, Tree.children_unplaced,
      List.find?_map, Function.comp_def, Tree.isNode_unplaced]
    cases t.children.find? Tree.isNode with
    | none => rfl
    | some c => exact conditionsIn_unplaced c

/-- The fields in a list do not depend on places. -/
theorem fieldsIn_unplaced (list : Option Tree) :
    fieldsIn (list.map Tree.unplaced) = fieldsIn list := by
  cases list with
  | none => rfl
  | some t => simp [fieldsIn, List.filterMap_map, operandText?_unplaced]

/-- What a statement asks for does not depend on where its tokens stand. -/
theorem ofStatement_unplaced (children : List Tree) :
    ofStatement (children.map Tree.unplaced) = ofStatement children := by
  simp only [ofStatement, List.find?_map, Function.comp_def, Tree.kind?_unplaced,
    tableIn_unplaced, fieldsIn_unplaced, conditionsInClause_unplaced]

end Query

/-! ### Texts with the same tokens -/

/-- Texts with the same tokens, apart from their places, are compiled to the same, apart from
these. -/
theorem Compiled.exists_of_map_unplaced {text text' : String}
    (h : (Token.scan text').map Token.unplaced = (Token.scan text).map Token.unplaced) :
    ∃ c c', ofText text = .ok c ∧ ofText text' = .ok c' ∧ c'.query = c.query ∧
      c'.tree.unplaced = c.tree.unplaced ∧
      c'.diagnostics.map (·.message) = c.diagnostics.map (·.message) := by
  obtain ⟨tree, late, hfile⟩ := exists_file (Token.scan text)
  obtain ⟨tree', late', hfile'⟩ := exists_file (Token.scan text')
  obtain ⟨htree, rfl⟩ := hfile'.unplaced.unique (h ▸ hfile.unplaced)
  obtain ⟨children, rfl, -⟩ := hfile.grammatical
  obtain ⟨children', rfl, -⟩ := hfile'.grammatical
  have hchildren : children'.map Tree.unplaced = children.map Tree.unplaced := by
    simpa using htree
  have hroot : (Tree.node .file [.node .selectStmt children' []] late').unplaced =
      (Tree.node .file [.node .selectStmt children []] late').unplaced := by
    simpa using hchildren
  refine ⟨_, _, hfile.ofText_eq, hfile'.ofText_eq, ?_, hroot, ?_⟩
  · exact (Query.ofStatement_unplaced children').symm.trans
      (hchildren ▸ Query.ofStatement_unplaced children)
  · exact (Tree.map_message_diagnostics_unplaced _).symm.trans
      (hroot ▸ Tree.map_message_diagnostics_unplaced _)

/-- **A text means the same whatever the blanks between its tokens.** Written with any others, it
has the same tokens, asks for the same, has the same tree and the same is wrong with it, apart from
the places of tokens. -/
theorem Compiled.ofText_write (l : Layout) (text : String) :
    (Token.scan (l.write (Token.scan text))).map Token.unplaced =
      (Token.scan text).map Token.unplaced ∧
    ∃ c c', ofText text = .ok c ∧ ofText (l.write (Token.scan text)) = .ok c' ∧
      c'.query = c.query ∧ c'.tree.unplaced = c.tree.unplaced ∧
      c'.diagnostics.map (·.message) = c.diagnostics.map (·.message) := by
  have h := Token.map_unplaced_scan_write l text
  exact ⟨h, exists_of_map_unplaced h⟩

end FeedQuery
