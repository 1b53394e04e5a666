import FeedQuery.Proofs.Derivation

/-!
# The schema of trees

Which children a node of each kind has, in the tree of any tokens: `Tree.Schema` lists the nodes
that the grammar makes, and `Derivation.File.grammatical` says that it makes no others. Operators
are grouped by precedence and to the left: the level of an operation (`Tree.level?`) is at most that
of its left operand and below that of its right one. The level is the invariant of the loop over
operators: an operator that the loop meets never binds more tightly than the tree on its left.
-/

namespace FeedQuery

namespace Tree

/-- How tightly the operator of an operation binds. -/
def level? : Tree → Option Nat
  | .node .exprBinary [_, .leaf op, _] _ => op.kind.precedence?
  | _ => none

/-- Whether a tree stands where an expression is expected. -/
def isExpression : Tree → Bool
  | .node .exprBinary .. | .node .exprName .. | .node .exprString .. | .node .errorTree .. => true
  | _ => false

/-- Whether a tree can be a child of the list of fields. -/
def isFieldPart : Tree → Bool
  | .leaf t => t.kind == .comma || t.kind == .star
  | tree => tree.isExpression

/-- The nodes that the grammar makes, by kind and children. -/
inductive Schema : NodeKind → List Tree → Prop
  | name : t.kind = .identifier → Schema .exprName [.leaf t]
  | string : t.kind = .string → Schema .exprString [.leaf t]
  | missing : Schema .errorTree []
  | error : t.errors ≠ [] → Schema .errorTree [.leaf t]
  | binary {lhs rhs : Tree} {op : Token} {n : Nat} : lhs.isExpression = true →
      rhs.isExpression = true → op.kind.precedence? = some n → (∀ m ∈ lhs.level?, n ≤ m) →
      (∀ m ∈ rhs.level?, n < m) → Schema .exprBinary [lhs, .leaf op, rhs]
  | fields {children : List Tree} : (∀ c ∈ children, c.isFieldPart = true) →
      Schema .fieldList children
  | table {t : Token} {names : List Token} : t.kind = .kwFrom → names.length ≤ 1 →
      Schema .fromClause (.leaf t :: names.map .leaf)
  | condition : t.kind = .kwWhere → tree.isExpression = true →
      Schema .whereClause [.leaf t, tree]
  | statement {first : List Token} {fields table condition : List Tree} {ts : List Token} :
      first.length ≤ 1 → table.length ≤ 1 → (∀ c ∈ table, c.kind? = some .fromClause) →
      condition.length ≤ 1 → (∀ c ∈ condition, c.kind? = some .whereClause) →
      Schema .selectStmt (first.map .leaf ++ .node .fieldList fields [] ::
        (table ++ condition ++ Derivation.leftoverTrees ts))
  | file {children : List Tree} : Schema .file [.node .selectStmt children []]

/-- Every node of the tree is one that the grammar makes, without messages of its own. -/
abbrev Grammatical (t : Tree) : Prop :=
  t.Licensed fun kind children errors => errors = [] ∧ Schema kind children

/-- The nodes that the grammar makes carry no messages. -/
theorem Grammatical.unmarked {t : Tree} (h : t.Grammatical) : t.Unmarked :=
  h.mono fun _ _ _ hnode => hnode.1

end Tree

namespace Derivation

open Grammar FeedQuery.Tree

/-- A token that is skipped is a leaf with a message. -/
theorem Skip.schema (h : Skip message ts trees rest late) :
    Schema .errorTree trees ∧ ∃ us : List Token, us.length ≤ 1 ∧ trees = us.map .leaf := by
  cases h with
  | clause => exact ⟨.missing, [], by simp⟩
  | @other t _ _ => exact ⟨.error (by simp [Token.withError]), [t.withError message], by simp⟩
  | ending => exact ⟨.missing, [], by simp⟩

/-- An operand is an expression without an operator. -/
theorem Operand.grammatical (h : Operand ts tree rest late) :
    tree.Grammatical ∧ tree.isExpression = true ∧ tree.level? = none := by
  cases h with
  | name hk => exact ⟨by simp [Schema.name hk], rfl, rfl⟩
  | string hk => exact ⟨by simp [Schema.string hk], rfl, rfl⟩
  | broken _ h =>
    obtain ⟨hs, us, -, rfl⟩ := h.schema
    exact ⟨by simp [hs], rfl, rfl⟩

/-- Where operators end, no operator that belongs to them comes next. -/
theorem Operators.bindsTighter_eq_false (h : Operators left lhs ts tree rest late) :
    ∀ t ∈ rest.head?, bindsTighter left t.kind = false := by
  induction h with
  | ending => simp
  | stop ht => simpa using ht
  | more _ _ _ _ _ ih => exact ih

/-- An operator binds more tightly than the one before it when its level is higher. -/
theorem bindsTighter_eq_true {left : Option TokenKind} {kind : TokenKind}
    (h : bindsTighter left kind = true) :
    ∃ n, kind.precedence? = some n ∧ ∀ l ∈ left.bind TokenKind.precedence?, l < n := by
  cases hk : kind.precedence? with
  | none => simp [bindsTighter, hk] at h
  | some n =>
    refine ⟨n, rfl, fun l hl => ?_⟩
    rw [Option.mem_def] at hl
    simpa [bindsTighter, hk, hl] using h

/-- An operator does not bind more tightly than one before it of its level or a higher one. -/
theorem le_of_bindsTighter_eq_false {op kind : TokenKind} {m n : Nat}
    (h : bindsTighter (some op) kind = false) (hop : op.precedence? = some n)
    (hk : kind.precedence? = some m) : m ≤ n := by
  simpa [bindsTighter, hop, hk] using h

/-- Operators are grouped by precedence and to the left. The tree on their left has been made by the
same loop, so the next operator does not bind more tightly than it; and all that the loop makes
binds more tightly than the operator before the loop. -/
theorem Operators.grammatical (h : Operators left lhs ts tree rest late)
    (hlhs : lhs.Grammatical ∧ lhs.isExpression = true)
    (hnext : ∀ t ∈ ts.head?, ∀ n ∈ t.kind.precedence?, ∀ m ∈ lhs.level?, n ≤ m)
    (hleft : ∀ l ∈ left.bind TokenKind.precedence?, ∀ m ∈ lhs.level?, l < m) :
    (tree.Grammatical ∧ tree.isExpression = true) ∧
      ∀ l ∈ left.bind TokenKind.precedence?, ∀ m ∈ tree.level?, l < m := by
  induction h with
  | ending => exact ⟨hlhs, hleft⟩
  | stop => exact ⟨hlhs, hleft⟩
  | @more left lhs first rhs tree op ts ts₁ ts₂ rest _ _ _ hop hfirst hrhs _ ih₁ ih₂ =>
    obtain ⟨n, hn, hl⟩ := bindsTighter_eq_true hop
    obtain ⟨hg, he, hlevel⟩ := hfirst.grammatical
    obtain ⟨⟨hgrhs, herhs⟩, hr⟩ := ih₁ ⟨hg, he⟩ (by simp [hlevel]) (by simp [hlevel])
    have hschema : Schema .exprBinary [lhs, .leaf op, rhs] :=
      .binary hlhs.2 herhs hn (hnext op rfl n hn) (hr n hn)
    refine ih₂ ⟨?_, rfl⟩ ?_ ?_
    · simp [hschema, hlhs.1, hgrhs]
    · intro t ht m hm k hk
      obtain rfl : n = k := Option.some.inj (hn.symm.trans hk)
      exact le_of_bindsTighter_eq_false (hrhs.bindsTighter_eq_false t ht) hn hm
    · intro l hmem k hk
      obtain rfl : n = k := Option.some.inj (hn.symm.trans hk)
      exact hl l hmem

/-- An expression is grouped by precedence and to the left. -/
theorem Expression.grammatical (h : Expression ts tree rest late) :
    tree.Grammatical ∧ tree.isExpression = true := by
  obtain ⟨hfirst, hops⟩ := h
  obtain ⟨hg, he, hlevel⟩ := hfirst.grammatical
  exact (hops.grammatical ⟨hg, he⟩ (by simp [hlevel]) (by simp [hlevel])).1

/-- An expression can be a field. -/
theorem isFieldPart_of_isExpression {tree : Tree} (h : tree.isExpression = true) :
    tree.isFieldPart = true := by
  cases tree with
  | leaf => cases h
  | node => exact h

/-- A field is made of children that a list of fields can have. -/
theorem Field.grammatical (h : Field ts trees rest late) :
    ∀ c ∈ trees, c.Grammatical ∧ c.isFieldPart = true := by
  cases h with
  | star hk => simp [isFieldPart, hk]
  | comma => simp
  | expression _ h =>
    have ⟨hg, he⟩ := h.grammatical
    simpa using ⟨hg, isFieldPart_of_isExpression he⟩

/-- The fields after the first one are children that a list of fields can have. -/
theorem MoreFields.grammatical (h : MoreFields ts trees rest late) :
    ∀ c ∈ trees, c.Grammatical ∧ c.isFieldPart = true := by
  induction h with
  | ending => simp
  | clause => simp
  | comma hk hfield _ ih =>
    refine List.forall_mem_cons.2 ⟨by simp [isFieldPart, hk], ?_⟩
    exact List.forall_mem_append.2 ⟨hfield.grammatical, ih⟩
  | missing _ hfield _ ih => exact List.forall_mem_append.2 ⟨hfield.grammatical, ih⟩
  | @stray t _ _ _ _ _ _ _ _ ih =>
    have hs : Schema .errorTree [.leaf (t.withError expectedComma)] :=
      .error (by simp [Token.withError])
    exact List.forall_mem_cons.2 ⟨by simp [hs, isFieldPart, isExpression], ih⟩

/-- The fields are a list of fields. -/
theorem FieldList.grammatical (h : FieldList ts tree rest late) :
    ∃ fields, tree = .node .fieldList fields [] ∧ tree.Grammatical := by
  obtain ⟨hfield, hmore⟩ := h
  have hparts := List.forall_mem_append.2 ⟨hfield.grammatical, hmore.grammatical⟩
  exact ⟨_, rfl, (licensed_node ..).2
    ⟨⟨rfl, .fields fun c hc => (hparts c hc).2⟩, fun c hc => (hparts c hc).1⟩⟩

/-- What is expected, or what is there instead, is at most one token. -/
theorem Expect.exists_leaves (h : Expect kind message ts trees rest late) :
    ∃ us : List Token, us.length ≤ 1 ∧ trees = us.map .leaf := by
  cases h with
  | @found t => exact ⟨[t], by simp⟩
  | missing _ h => exact h.schema.2

/-- There is one clause of the table at most. -/
theorem TableClause.grammatical (h : TableClause ts trees rest late) :
    (∀ c ∈ trees, c.Grammatical ∧ c.kind? = some .fromClause) ∧ trees.length ≤ 1 := by
  cases h with
  | absent => simp
  | present hk h =>
    obtain ⟨us, hlen, rfl⟩ := h.exists_leaves
    simp [kind?, Schema.table hk hlen]

/-- There is one clause of the condition at most. -/
theorem ConditionClause.grammatical (h : ConditionClause ts trees rest late) :
    (∀ c ∈ trees, c.Grammatical ∧ c.kind? = some .whereClause) ∧ trees.length ≤ 1 := by
  cases h with
  | absent => simp
  | present hk h =>
    have ⟨hg, he⟩ := h.grammatical
    simp [kind?, Schema.condition hk he, hg]

/-- The nodes of what is left over are those that the grammar makes. -/
theorem leftoverTrees_grammatical (ts : List Token) :
    ∀ c ∈ leftoverTrees ts, c.Grammatical := by
  intro c hc
  obtain ⟨t, -, rfl⟩ := List.mem_map.1 hc
  have hs : Schema .errorTree [.leaf (t.withError unexpectedToken)] :=
    .error (by simp [Token.withError])
  simp [hs]

/-- A statement is a node that the grammar makes. -/
theorem Statement.grammatical (h : Statement ts tree late) :
    ∃ children, tree = .node .selectStmt children [] ∧ tree.Grammatical := by
  obtain ⟨hselect, hfields, htable, hcondition⟩ := h
  obtain ⟨first, hfirst, rfl⟩ := hselect.exists_leaves
  obtain ⟨fields, rfl, hgfields⟩ := hfields.grammatical
  obtain ⟨hgtable, hltable⟩ := htable.grammatical
  obtain ⟨hgcondition, hlcondition⟩ := hcondition.grammatical
  refine ⟨_, rfl, (licensed_node ..).2 ⟨⟨rfl, ?_⟩, ?_⟩⟩
  · exact .statement hfirst hltable (fun c hc => (hgtable c hc).2) hlcondition
      fun c hc => (hgcondition c hc).2
  · refine List.forall_mem_append.2 ⟨by simp, List.forall_mem_cons.2 ⟨hgfields, ?_⟩⟩
    refine List.forall_mem_append.2 ⟨List.forall_mem_append.2 ⟨?_, ?_⟩, ?_⟩
    · exact fun c hc => (hgtable c hc).1
    · exact fun c hc => (hgcondition c hc).1
    · exact leftoverTrees_grammatical _

/-- Every node of the tree of a query is one that the grammar makes. -/
theorem File.grammatical (h : File ts tree late) :
    ∃ children, tree = .node .file [.node .selectStmt children []] [] ∧ tree.Grammatical := by
  obtain ⟨h⟩ := h
  obtain ⟨children, rfl, hg⟩ := h.grammatical
  exact ⟨children, rfl, (licensed_node ..).2 ⟨⟨rfl, .file⟩, by simpa using hg⟩⟩

end Derivation

end FeedQuery
