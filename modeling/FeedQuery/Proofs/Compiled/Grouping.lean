import FeedQuery.Proofs.Compiled
import FeedQuery.Proofs.Derivation.Clauses
import FeedQuery.Proofs.Derivation.Sentence

/-!
# Grouping of operators

The levels of precedence give operands and operators in turn one tree, and it is the tree of these
tokens (`Tree.grouped_ofTokens`).
-/

namespace FeedQuery

/-!
## Precedence

The grammar of expressions by levels of precedence, on trees: `Tree.OfLevel`. Its trees are told
apart by their tokens (`Tree.OfLevel.eq_of_leaves_eq`): of two ways to split an expression at an
operator, the one further to the left has the other operator in its right operand, where it would
have to bind more tightly, and the other one has the first in its left operand, where it may not
bind less tightly.

Operands and operators in turn are read as the tree of the loosest level that has these tokens
(`Derivation.Expression.ofLevel`): what is read is grouped in any case, so that it is of a level
unless there is a mistake in it.
-/

open FeedQuery.Derivation

namespace Tree

/-- The trees of a level of precedence. An operation has a tree of its own level on the left and one
of the next level on the right; a tree of the next level is of the level too. Operands are above the
operators, of which there are three levels. -/
inductive OfLevel : Nat → Tree → Prop
  | name : t.kind = .identifier → OfLevel 3 (.node .exprName [.leaf t] [])
  | string : t.kind = .string → OfLevel 3 (.node .exprString [.leaf t] [])
  | binary {n : Nat} {lhs rhs : Tree} {op : Token} : op.kind.precedence? = some n →
      OfLevel n lhs → OfLevel (n + 1) rhs → OfLevel n (.node .exprBinary [lhs, .leaf op, rhs] [])
  | next : OfLevel (n + 1) tree → OfLevel n tree

namespace OfLevel

/-- A tree of a level is of all levels below it. -/
theorem of_le (h : OfLevel m t) (hle : n ≤ m) : OfLevel n t := by
  induction hle with
  | refl => exact h
  | step _ ih => exact ih h.next

/-- All operators of a tree bind as tightly as its level says. -/
theorem le_of_mem_leaves (h : OfLevel n t) :
    ∀ u ∈ t.leaves, ∀ m ∈ u.kind.precedence?, n ≤ m := by
  induction h with
  | name hk | string hk => simp [leaves, leavesOf, hk, TokenKind.precedence?]
  | @binary n lhs rhs op hop _ _ ihl ihr =>
    intro u hu m hm
    obtain hu | rfl | hu : u ∈ lhs.leaves ∨ u = op ∨ u ∈ rhs.leaves := by
      simpa [leaves, leavesOf] using hu
    · exact ihl u hu m hm
    · exact Nat.le_of_eq (Option.some.inj (hop.symm.trans hm))
    · exact Nat.le_of_succ_le (ihr u hu m hm)
  | next _ ih => exact fun u hu m hm => Nat.le_of_succ_le (ih u hu m hm)

/-- A tree of a level has tokens. -/
theorem leaves_ne_nil (h : OfLevel n t) : t.leaves ≠ [] := by
  induction h with
  | name | string => exact List.cons_ne_nil _ _
  | binary => simp [leaves, leavesOf]
  | next _ ih => exact ih

/-- An operand is the tree of a single token, and an operation has two operands. -/
theorem operand_or_binary (h : OfLevel n t) :
    (∃ u, t.leaves = [u] ∧ (u.kind = .identifier ∧ t = .node .exprName [.leaf u] [] ∨
      u.kind = .string ∧ t = .node .exprString [.leaf u] [])) ∨
    ∃ m lhs op rhs, t = .node .exprBinary [lhs, .leaf op, rhs] [] ∧
      op.kind.precedence? = some m ∧ OfLevel m lhs ∧ OfLevel (m + 1) rhs := by
  induction h with
  | @name u hk => exact .inl ⟨u, rfl, .inl ⟨hk, rfl⟩⟩
  | @string u hk => exact .inl ⟨u, rfl, .inr ⟨hk, rfl⟩⟩
  | binary hop hl hr => exact .inr ⟨_, _, _, _, rfl, hop, hl, hr⟩
  | next _ ih => exact ih

/-- A token makes one operand. -/
theorem eq_of_leaves_singleton (h : OfLevel n t) (hu : t.leaves = [u]) :
    u.kind = .identifier ∧ t = .node .exprName [.leaf u] [] ∨
      u.kind = .string ∧ t = .node .exprString [.leaf u] [] := by
  obtain ⟨v, hv, hcases⟩ | ⟨m, lhs, op, rhs, rfl, -, hl, -⟩ := h.operand_or_binary
  · obtain rfl : v = u := by simpa using hv.symm.trans hu
    exact hcases
  · have hlength := congrArg List.length hu
    have hpos := List.length_pos_iff.2 hl.leaves_ne_nil
    simp [leaves, leavesOf] at hlength
    omega

/-- The operator of an expression does not stand in the left operand of another way to group the
expression: the operator there would stand in the right operand of the first. -/
theorem split_not_later {lhs rhs lhs' rhs' : Tree} {op op' : Token} {n n' : Nat}
    (hop : op.kind.precedence? = some n) (hrhs : OfLevel (n + 1) rhs)
    (hop' : op'.kind.precedence? = some n') (hlhs' : OfLevel n' lhs') {us : List Token}
    (hl : lhs'.leaves = lhs.leaves ++ op :: us) :
    rhs.leaves ≠ us ++ op' :: rhs'.leaves := by
  intro hr
  have hlt : n < n' := hrhs.le_of_mem_leaves op' (by simp [hr]) n' hop'
  have hle : n' ≤ n := hlhs'.le_of_mem_leaves op (by simp [hl]) n hop
  omega

/-- An expression is split at one operator only. -/
theorem split_eq {lhs rhs lhs' rhs' : Tree} {op op' : Token} {n n' : Nat}
    (hop : op.kind.precedence? = some n) (hlhs : OfLevel n lhs) (hrhs : OfLevel (n + 1) rhs)
    (hop' : op'.kind.precedence? = some n') (hlhs' : OfLevel n' lhs')
    (hrhs' : OfLevel (n' + 1) rhs')
    (hsplit : lhs.leaves ++ op :: rhs.leaves = lhs'.leaves ++ op' :: rhs'.leaves) :
    lhs.leaves = lhs'.leaves ∧ op = op' ∧ rhs.leaves = rhs'.leaves := by
  obtain ⟨us, hl, hr⟩ | ⟨us, hl, hr⟩ := List.append_eq_append_iff.1 hsplit
  · cases us with
    | nil =>
      obtain ⟨rfl, hrest⟩ := List.cons.inj hr
      exact ⟨by simp [hl], rfl, hrest⟩
    | cons u us =>
      obtain ⟨rfl, hrest⟩ := List.cons.inj hr
      exact absurd hrest (split_not_later hop hrhs hop' hlhs' hl)
  · cases us with
    | nil =>
      obtain ⟨rfl, hrest⟩ := List.cons.inj hr
      exact ⟨by simp [hl], rfl, hrest.symm⟩
    | cons u us =>
      obtain ⟨rfl, hrest⟩ := List.cons.inj hr
      exact absurd hrest (split_not_later hop' hrhs' hop hlhs hl)

/-- **The tokens of an expression determine its tree.** -/
theorem eq_of_leaves_eq (h : OfLevel n t) (h' : OfLevel n' t') (hl : t.leaves = t'.leaves) :
    t = t' := by
  induction h generalizing n' t' with
  | next _ ih => exact ih h' hl
  | name hk =>
    obtain ⟨-, rfl⟩ | ⟨hk', -⟩ := h'.eq_of_leaves_singleton hl.symm
    · rfl
    · rw [hk] at hk'; cases hk'
  | string hk =>
    obtain ⟨hk', -⟩ | ⟨-, rfl⟩ := h'.eq_of_leaves_singleton hl.symm
    · rw [hk] at hk'; cases hk'
    · rfl
  | @binary n lhs rhs op hop hlhs hrhs ihl ihr =>
    obtain ⟨u, hu, -⟩ | ⟨n', lhs', op', rhs', rfl, hop', hlhs', hrhs'⟩ := h'.operand_or_binary
    · obtain ⟨-, hne⟩ | ⟨-, hne⟩ := (binary hop hlhs hrhs).eq_of_leaves_singleton (hl.trans hu)
      · cases hne
      · cases hne
    · have hsplit : lhs.leaves ++ op :: rhs.leaves = lhs'.leaves ++ op' :: rhs'.leaves := by
        simpa [leaves, leavesOf] using hl
      obtain ⟨hleft, rfl, hright⟩ := split_eq hop hlhs hrhs hop' hlhs' hrhs' hsplit
      rw [ihl hlhs' hleft, ihr hrhs' hright]

end OfLevel

/-- No node of the tree is a mistake. -/
abbrev Unbroken (t : Tree) : Prop := t.Licensed fun kind _ _ => kind ≠ .errorTree

/-- An expression of the grammar without mistakes is of each level up to that of its operator. -/
theorem Grammatical.ofLevel {t : Tree} (h : t.Grammatical) (he : t.isExpression = true)
    (hu : t.Unbroken) (hn : n ≤ 3) (hlevel : ∀ m ∈ t.level?, n ≤ m) : OfLevel n t := by
  induction t using Tree.induct generalizing n with
  | leaf => cases he
  | node kind children errors ih =>
    obtain ⟨⟨rfl, hs⟩, hc⟩ := (licensed_node ..).1 h
    obtain ⟨hkind, huc⟩ := (licensed_node ..).1 hu
    cases hs with
    | name hk => exact (OfLevel.name hk).of_le hn
    | string hk => exact (OfLevel.string hk).of_le hn
    | missing | error => exact absurd rfl hkind
    | @binary lhs rhs op m hel her hop hl hr =>
      have hm : m ≤ 2 := by
        revert hop
        cases op.kind <;> simp [TokenKind.precedence?] <;> omega
      have hlhs := ih lhs (by simp) (hc _ (by simp)) hel (huc _ (by simp)) (by omega) hl
      have hrhs := ih rhs (by simp) (hc _ (by simp)) her (huc _ (by simp)) (by omega) hr
      exact (OfLevel.binary hop hlhs hrhs).of_le (hlevel m hop)
    | fields | table | condition | statement | file => cases he

end Tree

namespace Derivation

open Grammar Sentence FeedQuery.Tree

/-- An operand that is there makes no mistake. -/
theorem Operand.unbroken (h : Operand (t :: ts) tree rest late) (ht : IsOperand t.kind) :
    tree.Unbroken := by
  cases h with
  | name | string => simp [Unbroken]
  | broken hk => exact absurd ht (not_or.2 (hk t rfl))

/-- Operators with operands behind them make no mistake. -/
theorem Operators.unbroken (h : Operators left lhs ts tree rest late) {us tail : List Token}
    (hts : ts = us ++ tail) (hus : Pairs (kindsOf us))
    (htail : ∀ t ∈ tail.head?, ¬ IsOperator t.kind) (hlhs : lhs.Unbroken) : tree.Unbroken := by
  induction h generalizing us with
  | ending | stop => exact hlhs
  | @more _ lhs first rhs tree op ts ts₁ ts₂ rest _ _ _ hop hfirst hrhs _ ih₁ ih₂ =>
    obtain rfl | ⟨op', t, us, rfl, -, ht, hpairs⟩ := pairs_kindsOf hus
    · exact absurd (isOperator_of_bindsTighter hop) (htail op (congrArg List.head? hts).symm)
    · obtain ⟨rfl, rfl⟩ : op = op' ∧ ts = t :: (us ++ tail) := by simpa using hts
      obtain ⟨rfl, -, -⟩ := hfirst.of_isOperand ht
      obtain ⟨_, ws, -, hws, rfl, -, -⟩ := hrhs.of_pairs rfl hpairs htail
      have hr := ih₁ rfl hpairs (hfirst.unbroken ht)
      exact ih₂ rfl hws (by simp [Unbroken, hlhs, hr])

/-- **Operands and operators in turn are read as the tree of the loosest level that has these
tokens.** -/
theorem Expression.ofLevel (h : Expression (us ++ tail) tree rest late)
    (hus : Expr (kindsOf us)) (htail : ∀ t ∈ tail.head?, ¬ IsOperator t.kind) :
    OfLevel 0 tree ∧ tree.leaves = us := by
  obtain ⟨hg, he⟩ := h.grammatical
  obtain ⟨-, -, hleaves⟩ := h.of_expr hus htail
  obtain ⟨hfirst, hops⟩ := h
  obtain ⟨t, us, rfl, ht, hpairs⟩ := expr_kindsOf hus
  obtain ⟨rfl, -, -⟩ := hfirst.of_isOperand ht
  have hu := hops.unbroken rfl hpairs htail (hfirst.unbroken ht)
  exact ⟨hg.ofLevel he hu (Nat.zero_le 3) fun m _ => Nat.zero_le m, hleaves⟩

end Derivation

/-!
## The operations of a tree

Every operation in the tree of any tokens has two operands with an operator between them, which is
grouped with them by precedence and to the left (`Tree.Grammatical.grouped`); and operands and
operators in turn behind the word of the condition make the one tree that the levels of precedence
give them (`Tree.grouped_ofTokens`).
-/

namespace Tree

/-- The children of an operation: two nodes with an operator between them. An operation on the left
binds at least as tightly, and one on the right more tightly. -/
def IsGrouped (children : List Tree) : Prop :=
  ∃ lhs op rhs n, children = [lhs, .leaf op, rhs] ∧ lhs.isNode = true ∧ rhs.isNode = true ∧
    op.kind.precedence? = some n ∧
    (lhs.kind? = some .exprBinary → ∃ m, lhs.level? = some m ∧ n ≤ m) ∧
    (rhs.kind? = some .exprBinary → ∃ m, rhs.level? = some m ∧ n < m)

/-- An expression is a node. -/
theorem isNode_of_isExpression {t : Tree} (h : t.isExpression = true) : t.isNode = true := by
  cases t with
  | leaf => cases h
  | node => rfl

/-- An operation has a level. -/
theorem Grammatical.exists_level {t : Tree} (h : t.Grammatical) (hk : t.kind? = some .exprBinary) :
    ∃ m, t.level? = some m := by
  cases t with
  | leaf => cases hk
  | node kind children errors =>
    cases hk
    obtain ⟨⟨-, hs⟩, -⟩ := (licensed_node ..).1 h
    cases hs with
    | @binary _ _ _ m _ _ hop => exact ⟨m, hop⟩

/-- Operators are grouped by precedence and to the left in each tree that the grammar makes. -/
theorem Grammatical.grouped {t : Tree} (h : t.Grammatical) :
    t.Licensed fun kind children _ => kind = .exprBinary → IsGrouped children := by
  induction t using Tree.induct with
  | leaf => trivial
  | node kind children errors ih =>
    obtain ⟨⟨-, hs⟩, hc⟩ := (licensed_node ..).1 h
    refine (licensed_node ..).2 ⟨?_, fun c hmem => ih c hmem (hc c hmem)⟩
    rintro rfl
    cases hs with
    | @binary lhs rhs op n hel her hop hl hr =>
      refine ⟨lhs, op, rhs, n, rfl, isNode_of_isExpression hel, isNode_of_isExpression her, hop,
        fun hk => ?_, fun hk => ?_⟩
      · obtain ⟨m, hm⟩ := Grammatical.exists_level (hc lhs (by simp)) hk
        exact ⟨m, hm, hl m hm⟩
      · obtain ⟨m, hm⟩ := Grammatical.exists_level (hc rhs (by simp)) hk
        exact ⟨m, hm, hr m hm⟩

end Tree

/-- **Operators are grouped by precedence and to the left**, in the tree of any tokens. Operands and
operators in turn behind the word of the condition make the one tree of the loosest level of
precedence that has these tokens, whatever follows them. -/
theorem Tree.grouped_ofTokens :
    (∀ tokens : List Token, ∃ tree, Tree.ofTrace (Trace.ofTokens tokens) = .ok tree ∧
      tree.Licensed fun kind children _ => kind = .exprBinary → IsGrouped children) ∧
    ∀ (before : List Token) (w : Token) (us tail : List Token), Leads before →
      w.kind = .kwWhere → Sentence.Expr (kindsOf us) →
      (∀ t ∈ tail.head?, ¬ Sentence.IsOperator t.kind) →
      ∃ tree w' condition, Tree.ofTrace (Trace.ofTokens (before ++ w :: (us ++ tail))) = .ok tree ∧
        Query.clause? tree .whereClause =
          .ok (some (.node .whereClause [.leaf w', condition] [])) ∧
        OfLevel 0 condition ∧ condition.leaves = us ∧
        ∀ other, OfLevel 0 other → other.leaves = us → other = condition := by
  refine ⟨fun tokens => ?_, fun before w us tail hbefore hw hus htail => ?_⟩
  · obtain ⟨tree, late, h⟩ := exists_file tokens
    obtain ⟨children, rfl, hg⟩ := h.grammatical
    obtain ⟨-, hc⟩ := (licensed_node ..).1 hg.grouped
    exact ⟨_, h.ofTrace_eq, (licensed_node ..).2 ⟨nofun, hc⟩⟩
  · obtain ⟨tree, late, h⟩ := exists_file (before ++ w :: (us ++ tail))
    obtain ⟨children, rfl, -⟩ := h.grammatical
    have htree := h.ofTrace_eq
    obtain ⟨hstatement⟩ := h
    obtain ⟨w', trees, rest, late', hext, hcondition, hfind⟩ :=
      hstatement.conditionClause_of_leads hbefore hw
    cases hcondition with
    | absent hne => exact absurd (hext.kind.trans hw) (hne w' rfl)
    | @present _ _ _ condition _ _ hexpr =>
      obtain ⟨hlevel, hleaves⟩ := hexpr.ofLevel hus htail
      refine ⟨_, w', condition, htree, congrArg Except.ok hfind, hlevel, hleaves, ?_⟩
      intro other hother hother'
      exact hother.eq_of_leaves_eq hlevel (hother'.trans hleaves.symm)

/-- An equals sign is grouped before a connector, also behind a field that is none. -/
theorem Tree.grouped_ofTokens_or :
    ∃ tree w condition, Tree.ofTrace (Trace.ofText "SELECT ! WHERE a OR b = 'c'") = .ok tree ∧
      Query.clause? tree .whereClause = .ok (some (.node .whereClause [.leaf w, condition] [])) ∧
      OfLevel 0 condition ∧ condition.leaves.map (·.text) = ["a", "OR", "b", "=", "'c'"] := by
  obtain ⟨before, w, us, hscan, hbefore, hw, hkinds, htexts⟩ : ∃ before w us,
      Token.scan "SELECT ! WHERE a OR b = 'c'" = before ++ w :: (us ++ []) ∧
      (∀ t ∈ before, t.kind.startsClause = false) ∧ w.kind = .kwWhere ∧
      kindsOf us = [.identifier, .kwOr, .identifier, .equals, .string] ∧
      us.map (·.text) = ["a", "OR", "b", "=", "'c'"] :=
    ⟨(Token.scan "SELECT ! WHERE a OR b = 'c'").take 2, ⟨.kwWhere, "WHERE", ⟨9, 14⟩, []⟩,
      (Token.scan "SELECT ! WHERE a OR b = 'c'").drop 3, by decide +kernel, by decide +kernel, rfl,
      by decide +kernel, by decide +kernel⟩
  have hus : Sentence.Expr (kindsOf us) := by
    rw [hkinds]
    exact .mk (.inl rfl) (.cons (.inl rfl) (.inl rfl) (.cons (.inr (.inr rfl)) (.inr rfl) .nil))
  obtain ⟨tree, w', condition, htree, hclause, hlevel, hleaves, -⟩ :=
    grouped_ofTokens.2 before w us [] (.fields hbefore) hw hus nofun
  rw [← hscan] at htree
  exact ⟨tree, w', condition, htree, hclause, hlevel, by rw [hleaves, htexts]⟩

end FeedQuery
