import FeedQuery.Proofs.Tree
import FeedQuery.Trace
import Mathlib.Data.List.Forall2

/-!
# Derivations

The grammar with its recovery from errors, as relations between tokens and trees. There is one
relation for each rule; it relates the tokens ahead of the rule to the trees that the rule makes,
the tokens that it leaves, and its messages about the end of the query. A token that is left in
place with a message is the first of those left. `Derivation.File` is the relation of whole queries.

A derivation exists for any tokens (`exists_file`), and it keeps all of them in their order, with
messages added to some (`File.extends`).
-/

namespace FeedQuery

/-! ## Tokens with further messages -/

/-- `t'` is `t`, possibly with further messages. -/
structure Token.ExtendsTo (t t' : Token) : Prop where
  kind : t'.kind = t.kind
  text : t'.text = t.text
  span : t'.span = t.span
  errors : t.errors <+: t'.errors

/-- A token is itself, with no further message. -/
theorem Token.ExtendsTo.refl (t : Token) : t.ExtendsTo t := ⟨rfl, rfl, rfl, List.prefix_rfl⟩

/-- Messages are added behind those added before. -/
theorem Token.ExtendsTo.trans {t u v : Token} (h : t.ExtendsTo u) (h' : u.ExtendsTo v) :
    t.ExtendsTo v :=
  ⟨h'.kind.trans h.kind, h'.text.trans h.text, h'.span.trans h.span, h.errors.trans h'.errors⟩

/-- A message is added behind those already there. -/
theorem Token.extendsTo_withError (t : Token) (message : String) :
    t.ExtendsTo (t.withError message) :=
  ⟨rfl, rfl, rfl, List.prefix_append ..⟩

/-- The tokens `us` are the tokens `ts`, possibly with further messages. -/
abbrev ExtendTo (ts us : List Token) : Prop := List.Forall₂ Token.ExtendsTo ts us

/-- Tokens are themselves, with no further messages. -/
theorem ExtendTo.refl (ts : List Token) : ExtendTo ts ts :=
  List.forall₂_same.2 fun t _ => .refl t

/-- Tokens get further messages one rule after the other. -/
theorem ExtendTo.trans : ∀ {ts us vs : List Token},
    ExtendTo ts us → ExtendTo us vs → ExtendTo ts vs
  | [], _, _, .nil, .nil => .nil
  | _ :: _, _, _, .cons h hs, .cons h' hs' => .cons (h.trans h') (ExtendTo.trans hs hs')

/-- Tokens get messages in each part of them. -/
theorem ExtendTo.append {ts ts' us us' : List Token} (h : ExtendTo ts us) (h' : ExtendTo ts' us') :
    ExtendTo (ts ++ ts') (us ++ us') :=
  List.rel_append h h'

/-- What follows an unchanged part may be extended. -/
theorem ExtendTo.append_left (ts : List Token) {us vs : List Token} (h : ExtendTo us vs) :
    ExtendTo (ts ++ us) (ts ++ vs) :=
  (ExtendTo.refl ts).append h

/-- Tokens extended in two goes: first some of them are read, then those that are left. -/
theorem ExtendTo.read {ts us vs ws : List Token} (h : ExtendTo ts (us ++ vs))
    (h' : ExtendTo vs ws) : ExtendTo ts (us ++ ws) :=
  h.trans (.append_left us h')

/-- Each token of the second list is one of the first, possibly with further messages. -/
theorem ExtendTo.exists_of_mem {ts us : List Token} (h : ExtendTo ts us) (hu : u ∈ us) :
    ∃ t ∈ ts, t.ExtendsTo u := by
  induction h with
  | nil => cases hu
  | @cons t _ _ _ ht _ ih =>
    cases hu with
    | head => exact ⟨t, .head _, ht⟩
    | tail _ hu =>
      obtain ⟨t', hmem, hext⟩ := ih hu
      exact ⟨t', .tail _ hmem, hext⟩

/-- What can start a field starts no clause. -/
theorem TokenKind.startsClause_of_startsField {kind : TokenKind}
    (h : kind.startsField = true) : kind.startsClause = false := by
  cases kind <;> first | rfl | cases h

namespace Derivation

open Grammar

/-! ## The rules -/

/-- A token that is out of place gets the message, and is taken unless it starts a clause, which is
left for its own rule. -/
inductive Skip (message : String) : List Token → List Tree → List Token → List String → Prop
  | clause : t.kind.startsClause = true →
      Skip message (t :: ts) [] (t.withError message :: ts) []
  | other : t.kind.startsClause = false →
      Skip message (t :: ts) [.leaf (t.withError message)] ts []
  | ending : Skip message [] [] [] [message]

/-- An operand. Anything else goes into an error node. -/
inductive Operand : List Token → Tree → List Token → List String → Prop
  | name : t.kind = .identifier → Operand (t :: ts) (.node .exprName [.leaf t] []) ts []
  | string : t.kind = .string → Operand (t :: ts) (.node .exprString [.leaf t] []) ts []
  | broken : (∀ t ∈ ts.head?, t.kind ≠ .identifier ∧ t.kind ≠ .string) →
      Skip expectedExpression ts trees rest late →
      Operand ts (.node .errorTree trees []) rest late

/-- The operators, each with its right operand, that follow the tree `lhs` and bind more tightly
than `left`. -/
inductive Operators :
    Option TokenKind → Tree → List Token → Tree → List Token → List String → Prop
  | ending : Operators left lhs [] lhs [] []
  | stop : bindsTighter left t.kind = false → Operators left lhs (t :: ts) lhs (t :: ts) []
  | more {left : Option TokenKind} {lhs first rhs tree : Tree} {op : Token}
      {ts ts₁ ts₂ rest : List Token} {late₁ late₂ late₃ : List String} :
      bindsTighter left op.kind = true →
      Operand ts first ts₁ late₁ → Operators (some op.kind) first ts₁ rhs ts₂ late₂ →
      Operators left (.node .exprBinary [lhs, .leaf op, rhs] []) ts₂ tree rest late₃ →
      Operators left lhs (op :: ts) tree rest (late₁ ++ late₂ ++ late₃)

/-- An expression. -/
inductive Expression : List Token → Tree → List Token → List String → Prop
  | mk : Operand ts first ts₁ late₁ → Operators none first ts₁ tree rest late₂ →
      Expression ts tree rest (late₁ ++ late₂)

/-- A field. A comma is left for the list. -/
inductive Field : List Token → List Tree → List Token → List String → Prop
  | star : t.kind = .star → Field (t :: ts) [.leaf t] ts []
  | comma : t.kind = .comma → Field (t :: ts) [] (t.withError expectedField :: ts) []
  | expression : (∀ t ∈ ts.head?, t.kind ≠ .star ∧ t.kind ≠ .comma) →
      Expression ts tree rest late → Field ts [tree] rest late

/-- The fields after the first one. -/
inductive MoreFields : List Token → List Tree → List Token → List String → Prop
  | ending : MoreFields [] [] [] []
  | clause : t.kind.startsClause = true → MoreFields (t :: ts) [] (t :: ts) []
  | comma {t : Token} {ts ts₁ rest : List Token} {trees₁ trees₂ : List Tree}
      {late₁ late₂ : List String} : t.kind = .comma → Field ts trees₁ ts₁ late₁ →
      MoreFields ts₁ trees₂ rest late₂ →
      MoreFields (t :: ts) (.leaf t :: (trees₁ ++ trees₂)) rest (late₁ ++ late₂)
  | missing {t : Token} {ts ts₁ rest : List Token} {trees₁ trees₂ : List Tree}
      {late₁ late₂ : List String} : t.kind.startsField = true →
      Field (t.withError expectedComma :: ts) trees₁ ts₁ late₁ →
      MoreFields ts₁ trees₂ rest late₂ →
      MoreFields (t :: ts) (trees₁ ++ trees₂) rest (late₁ ++ late₂)
  | stray {t : Token} {ts rest : List Token} {trees : List Tree} {late : List String} :
      t.kind.startsClause = false → t.kind ≠ .comma → t.kind.startsField = false →
      MoreFields ts trees rest late →
      MoreFields (t :: ts) (.node .errorTree [.leaf (t.withError expectedComma)] [] :: trees)
        rest late

/-- The fields. -/
inductive FieldList : List Token → Tree → List Token → List String → Prop
  | mk : Field ts trees₁ ts₁ late₁ → MoreFields ts₁ trees₂ rest late₂ →
      FieldList ts (.node .fieldList (trees₁ ++ trees₂) []) rest (late₁ ++ late₂)

/-- A token of that kind; anything else gets the message. -/
inductive Expect (kind : TokenKind) (message : String) :
    List Token → List Tree → List Token → List String → Prop
  | found : t.kind = kind → Expect kind message (t :: ts) [.leaf t] ts []
  | missing : (∀ t ∈ ts.head?, t.kind ≠ kind) → Skip message ts trees rest late →
      Expect kind message ts trees rest late

/-- The table, where its clause starts. -/
inductive TableClause : List Token → List Tree → List Token → List String → Prop
  | absent : (∀ t ∈ ts.head?, t.kind ≠ .kwFrom) → TableClause ts [] ts []
  | present {t : Token} {ts rest : List Token} {trees : List Tree} {late : List String} :
      t.kind = .kwFrom → Expect .identifier expectedTable ts trees rest late →
      TableClause (t :: ts) [.node .fromClause (.leaf t :: trees) []] rest late

/-- The condition, where its clause starts. -/
inductive ConditionClause : List Token → List Tree → List Token → List String → Prop
  | absent : (∀ t ∈ ts.head?, t.kind ≠ .kwWhere) → ConditionClause ts [] ts []
  | present {t : Token} {ts rest : List Token} {tree : Tree} {late : List String} :
      t.kind = .kwWhere → Expression ts tree rest late →
      ConditionClause (t :: ts) [.node .whereClause [.leaf t, tree] []] rest late

/-- The error nodes of the tokens that are left. -/
def leftoverTrees (ts : List Token) : List Tree :=
  ts.map fun t => .node .errorTree [.leaf (t.withError unexpectedToken)] []

/-- A statement and whatever comes after it. -/
inductive Statement : List Token → Tree → List String → Prop
  | mk : Expect .kwSelect expectedSelect ts first ts₁ late₁ → FieldList ts₁ fields ts₂ late₂ →
      TableClause ts₂ table ts₃ late₃ → ConditionClause ts₃ condition ts₄ late₄ →
      Statement ts
        (.node .selectStmt (first ++ fields :: (table ++ condition ++ leftoverTrees ts₄)) [])
        (late₁ ++ late₂ ++ late₃ ++ late₄)

/-- A query. -/
inductive File : List Token → Tree → List String → Prop
  | mk : Statement ts tree late → File ts (.node .file [tree] []) late

/-! ## No token is lost -/

/-- A token out of place is kept, and so are the tokens after it. -/
theorem Skip.extends (h : Skip message ts trees rest late) :
    ExtendTo ts (Tree.leavesOf trees ++ rest) := by
  cases h with
  | clause | other => exact .cons (Token.extendsTo_withError ..) (ExtendTo.refl _)
  | ending => exact .nil

/-- An operand keeps its token, and the tokens after it. -/
theorem Operand.extends (h : Operand ts tree rest late) : ExtendTo ts (tree.leaves ++ rest) := by
  cases h with
  | name | string => exact ExtendTo.refl _
  | broken _ h => exact h.extends

/-- Operators add the tokens that they take to those of the tree on their left. -/
theorem Operators.extends (h : Operators left lhs ts tree rest late) :
    ∃ us, tree.leaves = lhs.leaves ++ us ∧ ExtendTo ts (us ++ rest) := by
  induction h with
  | ending => exact ⟨[], by simp, .nil⟩
  | stop => exact ⟨[], by simp, ExtendTo.refl _⟩
  | @more _ lhs first rhs tree op ts ts₁ ts₂ rest _ _ _ _ hfirst _ _ ih₁ ih₂ =>
    obtain ⟨us, hus, h₁⟩ := ih₁
    obtain ⟨vs, hvs, h₂⟩ := ih₂
    refine ⟨op :: (rhs.leaves ++ vs), by simp [hvs, Tree.leaves, Tree.leavesOf], ?_⟩
    have hrhs : ExtendTo ts (rhs.leaves ++ ts₂) := by
      rw [hus, List.append_assoc]
      exact hfirst.extends.read h₁
    have hall : ExtendTo ts (rhs.leaves ++ (vs ++ rest)) := hrhs.read h₂
    rw [List.cons_append, List.append_assoc]
    exact .cons (.refl op) hall

/-- An operand and the operators behind it keep their tokens, and the tokens after them. -/
theorem Operators.extends_operand (h : Operators left first ts₁ tree rest late)
    (hfirst : Operand ts first ts₁ late₁) : ExtendTo ts (tree.leaves ++ rest) := by
  obtain ⟨us, hus, h⟩ := h.extends
  rw [hus, List.append_assoc]
  exact hfirst.extends.read h

/-- An expression keeps its tokens, and the tokens after it. -/
theorem Expression.extends (h : Expression ts tree rest late) :
    ExtendTo ts (tree.leaves ++ rest) := by
  obtain ⟨hfirst, hops⟩ := h
  exact hops.extends_operand hfirst

/-- A field keeps its tokens, and the tokens after it. -/
theorem Field.extends (h : Field ts trees rest late) :
    ExtendTo ts (Tree.leavesOf trees ++ rest) := by
  cases h with
  | star => exact ExtendTo.refl _
  | comma => exact .cons (Token.extendsTo_withError ..) (ExtendTo.refl _)
  | expression _ h => simpa [Tree.leavesOf] using h.extends

/-- Two rules one after the other keep the tokens that each of them keeps. -/
theorem extends_append {trees trees' : List Tree} (h : ExtendTo ts (Tree.leavesOf trees ++ ts'))
    (h' : ExtendTo ts' (Tree.leavesOf trees' ++ rest)) :
    ExtendTo ts (Tree.leavesOf (trees ++ trees') ++ rest) := by
  rw [Tree.leavesOf_append, List.append_assoc]
  exact h.read h'

/-- The fields after the first one keep their tokens, and the tokens after them. -/
theorem MoreFields.extends (h : MoreFields ts trees rest late) :
    ExtendTo ts (Tree.leavesOf trees ++ rest) := by
  induction h with
  | ending => exact .nil
  | clause => exact ExtendTo.refl _
  | comma _ hfield _ ih => exact .cons (.refl _) (extends_append hfield.extends ih)
  | missing _ hfield _ ih =>
    exact ExtendTo.trans (.cons (Token.extendsTo_withError ..) (ExtendTo.refl _))
      (extends_append hfield.extends ih)
  | stray _ _ _ _ ih => exact .cons (Token.extendsTo_withError ..) ih

/-- The fields keep their tokens, and the tokens after them. -/
theorem FieldList.extends (h : FieldList ts tree rest late) :
    ExtendTo ts (tree.leaves ++ rest) := by
  obtain ⟨hfirst, hmore⟩ := h
  exact extends_append hfirst.extends hmore.extends

/-- A token that is expected is kept, and so is one that is there instead. -/
theorem Expect.extends (h : Expect kind message ts trees rest late) :
    ExtendTo ts (Tree.leavesOf trees ++ rest) := by
  cases h with
  | found => exact ExtendTo.refl _
  | missing _ h => exact h.extends

/-- The table keeps its tokens, and the tokens after it. -/
theorem TableClause.extends (h : TableClause ts trees rest late) :
    ExtendTo ts (Tree.leavesOf trees ++ rest) := by
  cases h with
  | absent => exact ExtendTo.refl _
  | present _ h => simpa [Tree.leavesOf, Tree.leaves] using ⟨Token.ExtendsTo.refl _, h.extends⟩

/-- The condition keeps its tokens, and the tokens after it. -/
theorem ConditionClause.extends (h : ConditionClause ts trees rest late) :
    ExtendTo ts (Tree.leavesOf trees ++ rest) := by
  cases h with
  | absent => exact ExtendTo.refl _
  | present _ h => simpa [Tree.leavesOf, Tree.leaves] using ⟨Token.ExtendsTo.refl _, h.extends⟩

/-- The tokens that are left over are kept with the message. -/
theorem leavesOf_leftoverTrees (ts : List Token) :
    Tree.leavesOf (leftoverTrees ts) = ts.map (·.withError unexpectedToken) := by
  induction ts with
  | nil => rfl
  | cons t ts ih => exact congrArg (t.withError unexpectedToken :: ·) ih

/-- The tokens that are left over are kept, and nothing comes after them. -/
theorem extends_leftoverTrees (ts : List Token) :
    ExtendTo ts (Tree.leavesOf (leftoverTrees ts) ++ []) := by
  rw [leavesOf_leftoverTrees, List.append_nil]
  exact List.forall₂_map_right_iff.2 (List.forall₂_same.2 fun t _ => t.extendsTo_withError _)

/-- A statement keeps all tokens. -/
theorem Statement.extends (h : Statement ts tree late) : ExtendTo ts tree.leaves := by
  obtain ⟨hselect, hfields, htable, hcondition⟩ := h
  have hclauses := extends_append htable.extends hcondition.extends
  have hrest := extends_append hclauses (extends_leftoverTrees _)
  have hlist := hfields.extends.read hrest
  simpa [Tree.leaves, Tree.leavesOf, Tree.leavesOf_append] using hselect.extends.read hlist

/-- A query keeps all tokens, in their order. -/
theorem File.extends (h : File ts tree late) : ExtendTo ts tree.leaves := by
  obtain ⟨h⟩ := h
  simpa [Tree.leaves, Tree.leavesOf] using h.extends

/-! ## Every list of tokens has a derivation -/

/-- What is left of an operand is no longer than what it was read from. -/
theorem Operand.length_le (h : Operand ts tree rest late) : rest.length ≤ ts.length := by
  have := h.extends.length_eq
  simp only [List.length_append] at this
  omega

/-- What is left of operators is no longer than what they were read from. -/
theorem Operators.length_le (h : Operators left lhs ts tree rest late) :
    rest.length ≤ ts.length := by
  obtain ⟨us, -, h⟩ := h.extends
  have := h.length_eq
  simp only [List.length_append] at this
  omega

/-- What is left of a field is no longer than what it was read from. -/
theorem Field.length_le (h : Field ts trees rest late) : rest.length ≤ ts.length := by
  have := h.extends.length_eq
  simp only [List.length_append] at this
  omega

/-- An operand takes any token but one that starts a clause. -/
theorem Operand.rest_eq (h : Operand (t :: ts) tree rest late)
    (ht : t.kind.startsClause = false) : rest = ts := by
  cases h with
  | name | string => rfl
  | broken _ h =>
    cases h with
    | clause hc => rw [ht] at hc; cases hc
    | other => rfl

/-- A field takes a token that can start one. -/
theorem Field.length_le_of_startsField (h : Field (t :: ts) trees rest late)
    (ht : t.kind.startsField = true) : rest.length ≤ ts.length := by
  cases h with
  | star => exact Nat.le_refl _
  | comma hc => rw [hc] at ht; cases ht
  | expression _ h =>
    obtain ⟨hfirst, hops⟩ := h
    have hrest := hfirst.rest_eq (TokenKind.startsClause_of_startsField ht)
    exact hrest ▸ hops.length_le

/-- Skipping is possible whatever the tokens are. -/
theorem exists_skip (message : String) (ts : List Token) :
    ∃ trees rest late, Skip message ts trees rest late := by
  cases ts with
  | nil => exact ⟨_, _, _, .ending⟩
  | cons t ts =>
    cases hc : t.kind.startsClause with
    | true => exact ⟨_, _, _, .clause hc⟩
    | false => exact ⟨_, _, _, .other hc⟩

/-- Either a token with the property comes next, or none does. -/
theorem head_cases (p : Token → Prop) (ts : List Token) :
    (∃ t us, ts = t :: us ∧ p t) ∨ ∀ t ∈ ts.head?, ¬ p t := by
  cases ts with
  | nil => exact .inr nofun
  | cons t us =>
    by_cases ht : p t
    · exact .inl ⟨t, us, rfl, ht⟩
    · exact .inr fun u hu => by cases hu; exact ht

/-- An operand is read from any tokens. -/
theorem exists_operand (ts : List Token) : ∃ tree rest late, Operand ts tree rest late := by
  obtain ⟨t, us, rfl, hn | hs⟩ | hk :=
    head_cases (fun t => t.kind = .identifier ∨ t.kind = .string) ts
  · exact ⟨_, _, _, .name hn⟩
  · exact ⟨_, _, _, .string hs⟩
  · obtain ⟨trees, rest, late, h⟩ := exists_skip expectedExpression ts
    exact ⟨_, _, _, .broken (fun t ht => not_or.1 (hk t ht)) h⟩

/-- The induction is on the number of tokens ahead: an operator and its operand take one of them at
least, and the operators after them start from what is left. -/
theorem exists_operators : ∀ (n : Nat) (left : Option TokenKind) (lhs : Tree) (ts : List Token),
    ts.length ≤ n → ∃ tree rest late, Operators left lhs ts tree rest late
  | _, _, _, [], _ => ⟨_, _, _, .ending⟩
  | n + 1, left, lhs, t :: ts, hn => by
    cases ht : bindsTighter left t.kind with
    | false => exact ⟨_, _, _, .stop ht⟩
    | true =>
      have hts : ts.length ≤ n := Nat.le_of_succ_le_succ hn
      obtain ⟨first, ts₁, late₁, hfirst⟩ := exists_operand ts
      have h₁ := hfirst.length_le
      obtain ⟨rhs, ts₂, late₂, hrhs⟩ := exists_operators n (some t.kind) first ts₁ (by omega)
      have h₂ := hrhs.length_le
      obtain ⟨tree, rest, late₃, h⟩ :=
        exists_operators n left (.node .exprBinary [lhs, .leaf t, rhs] []) ts₂ (by omega)
      exact ⟨_, _, _, .more ht hfirst hrhs h⟩

/-- An expression is read from any tokens. -/
theorem exists_expression (ts : List Token) : ∃ tree rest late, Expression ts tree rest late := by
  obtain ⟨first, ts₁, late₁, hfirst⟩ := exists_operand ts
  obtain ⟨tree, rest, late₂, h⟩ := exists_operators ts₁.length none first ts₁ (Nat.le_refl _)
  exact ⟨_, _, _, .mk hfirst h⟩

/-- A field is read from any tokens. -/
theorem exists_field (ts : List Token) : ∃ trees rest late, Field ts trees rest late := by
  obtain ⟨t, us, rfl, hs | hc⟩ | hk := head_cases (fun t => t.kind = .star ∨ t.kind = .comma) ts
  · exact ⟨_, _, _, .star hs⟩
  · exact ⟨_, _, _, .comma hc⟩
  · obtain ⟨tree, rest, late, h⟩ := exists_expression ts
    exact ⟨_, _, _, .expression (fun t ht => not_or.1 (hk t ht)) h⟩

/-- The induction is on the number of tokens ahead, as for operators; a field without a comma before
it takes the token that it starts with. -/
theorem exists_moreFields : ∀ (n : Nat) (ts : List Token), ts.length ≤ n →
    ∃ trees rest late, MoreFields ts trees rest late
  | _, [], _ => ⟨_, _, _, .ending⟩
  | n + 1, t :: ts, hn => by
    have hts : ts.length ≤ n := Nat.le_of_succ_le_succ hn
    cases hc : t.kind.startsClause with
    | true => exact ⟨_, _, _, .clause hc⟩
    | false =>
      by_cases hk : t.kind = .comma
      · obtain ⟨trees₁, ts₁, late₁, hfield⟩ := exists_field ts
        have h₁ := hfield.length_le
        obtain ⟨trees₂, rest, late₂, h⟩ := exists_moreFields n ts₁ (by omega)
        exact ⟨_, _, _, .comma hk hfield h⟩
      · cases hf : t.kind.startsField with
        | true =>
          obtain ⟨trees₁, ts₁, late₁, hfield⟩ := exists_field (t.withError expectedComma :: ts)
          have h₁ := hfield.length_le_of_startsField hf
          obtain ⟨trees₂, rest, late₂, h⟩ := exists_moreFields n ts₁ (by omega)
          exact ⟨_, _, _, .missing hf hfield h⟩
        | false =>
          obtain ⟨trees, rest, late, h⟩ := exists_moreFields n ts hts
          exact ⟨_, _, _, .stray hc hk hf h⟩

/-- The fields are read from any tokens. -/
theorem exists_fieldList (ts : List Token) : ∃ tree rest late, FieldList ts tree rest late := by
  obtain ⟨trees₁, ts₁, late₁, hfield⟩ := exists_field ts
  obtain ⟨trees₂, rest, late₂, h⟩ := exists_moreFields ts₁.length ts₁ (Nat.le_refl _)
  exact ⟨_, _, _, .mk hfield h⟩

/-- A token of a kind can be expected of any tokens. -/
theorem exists_expect (kind : TokenKind) (message : String) (ts : List Token) :
    ∃ trees rest late, Expect kind message ts trees rest late := by
  obtain ⟨t, us, rfl, hk⟩ | hk := head_cases (·.kind = kind) ts
  · exact ⟨_, _, _, .found hk⟩
  · obtain ⟨trees, rest, late, h⟩ := exists_skip message ts
    exact ⟨_, _, _, .missing hk h⟩

/-- The clause of the table is read from any tokens, or it is not there. -/
theorem exists_tableClause (ts : List Token) :
    ∃ trees rest late, TableClause ts trees rest late := by
  obtain ⟨t, us, rfl, hk⟩ | hk := head_cases (·.kind = .kwFrom) ts
  · obtain ⟨trees, rest, late, h⟩ := exists_expect .identifier expectedTable us
    exact ⟨_, _, _, .present hk h⟩
  · exact ⟨_, _, _, .absent hk⟩

/-- The clause of the condition is read from any tokens, or it is not there. -/
theorem exists_conditionClause (ts : List Token) :
    ∃ trees rest late, ConditionClause ts trees rest late := by
  obtain ⟨t, us, rfl, hk⟩ | hk := head_cases (·.kind = .kwWhere) ts
  · obtain ⟨tree, rest, late, h⟩ := exists_expression us
    exact ⟨_, _, _, .present hk h⟩
  · exact ⟨_, _, _, .absent hk⟩

/-- Any tokens are read as some tree. -/
theorem exists_file (ts : List Token) : ∃ tree late, File ts tree late := by
  obtain ⟨_, ts₁, _, hselect⟩ := exists_expect .kwSelect expectedSelect ts
  obtain ⟨_, ts₂, _, hfields⟩ := exists_fieldList ts₁
  obtain ⟨_, ts₃, _, htable⟩ := exists_tableClause ts₂
  obtain ⟨_, _, _, hcondition⟩ := exists_conditionClause ts₃
  exact ⟨_, _, .mk (.mk hselect hfields htable hcondition)⟩

end Derivation

end FeedQuery
