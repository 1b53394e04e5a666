import FeedQuery.Query

/-!
# The query of a statement

What the tree of a query asks for depends on the clauses of its statement alone
(`Query.ofTree_statement`): each part of the query is read from the first clause of its kind. The
pieces of a condition alternate, whatever the tree that they are read from
(`Query.conditionsIn_alternating`).
-/

namespace FeedQuery.Query

/-- The name that a table clause gives. -/
def tableIn (clause : Option Tree) : String :=
  let names := (clause.map Tree.children).getD [] |>.filterMap Tree.token?
  ((names.find? (·.kind == .identifier)).map (·.text)).getD ""

/-- The fields that a list of fields names. -/
def fieldsIn (list : Option Tree) : List String :=
  (list.map Tree.children).getD [] |>.filterMap operandText?

/-- The pieces of the condition that a condition clause holds. -/
def conditionsInClause (clause : Option Tree) : List Condition :=
  match ((clause.map Tree.children).getD []).find? Tree.isNode with
  | some condition => conditionsIn condition
  | none => []

/-- What a statement with these children asks for. -/
def ofStatement (children : List Tree) : Query :=
  let clause (kind : NodeKind) := children.find? (·.kind? == some kind)
  ⟨tableIn (clause .fromClause), conditionsInClause (clause .whereClause),
    fieldsIn (clause .fieldList)⟩

/-- The query of a tree is that of its statement. -/
theorem ofTree_statement (children : List Tree) (errors : List String) :
    ofTree (.node .file [.node .selectStmt children []] errors) = .ok (ofStatement children) :=
  rfl

/-- Among trees of one kind there is none of another. -/
theorem find?_kind_eq_none {trees : List Tree} {kind other : NodeKind} (hne : other ≠ kind)
    (h : ∀ c ∈ trees, c.kind? = some other) : trees.find? (·.kind? == some kind) = none :=
  List.find?_eq_none.2 fun c hc => by simpa [h c hc] using hne

/-- Among trees of one kind the first one is found. -/
theorem find?_kind_eq_head? {trees : List Tree} {kind : NodeKind}
    (h : ∀ c ∈ trees, c.kind? = some kind) :
    trees.find? (·.kind? == some kind) = trees.head? := by
  cases trees with
  | nil => rfl
  | cons c trees => simp [h c (.head _)]

/-- The clauses of a statement stand in their order, with tokens before them and mistakes behind. -/
theorem find?_clauses {first : List Token} {fields table condition rest : List Tree}
    (htable : ∀ c ∈ table, c.kind? = some .fromClause)
    (hcondition : ∀ c ∈ condition, c.kind? = some .whereClause)
    (hrest : ∀ c ∈ rest, c.kind? = some .errorTree) {children : List Tree}
    (hchildren : children =
      first.map .leaf ++ .node .fieldList fields [] :: (table ++ condition ++ rest)) :
    children.find? (·.kind? == some .fieldList) = some (.node .fieldList fields []) ∧
      children.find? (·.kind? == some .fromClause) = table.head? ∧
      children.find? (·.kind? == some .whereClause) = condition.head? := by
  subst hchildren
  have hfirst (kind : NodeKind) :
      (first.map Tree.leaf).find? (·.kind? == some kind) = none := by
    rw [List.find?_eq_none]
    simp [Tree.kind?]
  have hfields (kind : NodeKind) (hne : kind ≠ .fieldList) (trees : List Tree) :
      (Tree.node .fieldList fields [] :: trees).find? (·.kind? == some kind) =
        trees.find? (·.kind? == some kind) :=
    List.find?_cons_of_neg (by simpa [Tree.kind?] using hne.symm)
  refine ⟨?_, ?_, ?_⟩
  · rw [List.find?_append, hfirst, Option.none_or]
    exact List.find?_cons_of_pos rfl
  · rw [List.find?_append, hfirst, Option.none_or, hfields _ (by decide), List.find?_append,
      List.find?_append, find?_kind_eq_head? htable, find?_kind_eq_none (by decide) hcondition,
      find?_kind_eq_none (by decide) hrest, Option.or_none, Option.or_none]
  · rw [List.find?_append, hfirst, Option.none_or, hfields _ (by decide), List.find?_append,
      List.find?_append, find?_kind_eq_head? hcondition, find?_kind_eq_none (by decide) htable,
      find?_kind_eq_none (by decide) hrest, Option.none_or, Option.or_none]

/-- What a statement asks for, by its clauses. -/
theorem ofStatement_eq {first : List Token} {fields table condition rest : List Tree}
    (htable : ∀ c ∈ table, c.kind? = some .fromClause)
    (hcondition : ∀ c ∈ condition, c.kind? = some .whereClause)
    (hrest : ∀ c ∈ rest, c.kind? = some .errorTree) :
    ofStatement (first.map .leaf ++ .node .fieldList fields [] :: (table ++ condition ++ rest)) =
      ⟨tableIn table.head?, conditionsInClause condition.head?,
        fieldsIn (some (.node .fieldList fields []))⟩ := by
  obtain ⟨hlist, hfrom, hwhere⟩ := find?_clauses htable hcondition hrest rfl
  simp only [ofStatement]
  rw [hlist, hfrom, hwhere]

/-! ## The pieces of a condition -/

/-- Comparisons with a connector between any two. -/
inductive Alternating : List Condition → Prop
  | one (p : Predicate) : Alternating [.comparison p]
  | cons (p : Predicate) (c : Connector) : Alternating cs →
      Alternating (.comparison p :: .connector c :: cs)

/-- A connector joins comparisons in turn with others. -/
theorem Alternating.append (h : Alternating as) (c : Connector) (h' : Alternating bs) :
    Alternating (as ++ .connector c :: bs) := by
  induction h with
  | one p => exact .cons p c h'
  | cons p d _ ih => exact .cons p d ih

/-- A connector is written between conditions only. -/
theorem join_alternating (c : Connector) {as bs : List Condition} (h : as = [] ∨ Alternating as)
    (h' : bs = [] ∨ Alternating bs) : join c as bs = [] ∨ Alternating (join c as bs) := by
  unfold join
  obtain rfl | ha := h
  · simpa using h'
  · obtain rfl | hb := h'
    · simpa using Or.inr ha
    · split
      case isTrue hempty => cases ha <;> cases hb <;> simp at hempty
      case isFalse => exact .inr (ha.append c hb)

/-- An operation that compares is one comparison, or none. -/
theorem comparisonOf_alternating (lhs rhs : Tree) (operator : String) :
    comparisonOf lhs rhs operator = [] ∨ Alternating (comparisonOf lhs rhs operator) := by
  unfold comparisonOf
  split
  · exact .inr (.one _)
  · exact .inl rfl

/-- The pieces that are read from any tree alternate. -/
theorem conditionsIn_alternating (t : Tree) :
    conditionsIn t = [] ∨ Alternating (conditionsIn t) := by
  fun_induction conditionsIn t with
  | case1 lhs op rhs _ c _ ih ih' => exact join_alternating c ih ih'
  | case2 lhs op rhs => exact comparisonOf_alternating lhs rhs op.text
  | case3 => exact .inl rfl
  | case4 => exact .inl rfl

end FeedQuery.Query
