import FeedQuery.Proofs.Derivation.Schema

/-!
# Sentences

The grammar without its recovery from errors, on the kinds of tokens. `Sentence` is the language of
whole queries; it says nothing of precedence, and there is no message in it.

A derivation without messages reads a sentence (`Derivation.Statement.sentence`): each token out of
place leaves a message somewhere, and messages stay. Conversely a derivation of a sentence has no
messages (`Derivation.Statement.of_sentence`). What a rule reads must not go on for that, so the
lemmas of this direction say what comes after the tokens that are read.
-/

namespace FeedQuery

/-! ## The grammar -/

namespace Sentence

/-- What an expression is about. -/
def IsOperand (kind : TokenKind) : Prop := kind = .identifier ∨ kind = .string

instance : DecidablePred IsOperand := fun _ => inferInstanceAs (Decidable (_ ∨ _))

/-- What stands between operands. -/
def IsOperator (kind : TokenKind) : Prop := kind = .kwOr ∨ kind = .kwAnd ∨ kind = .equals

instance : DecidablePred IsOperator := fun _ => inferInstanceAs (Decidable (_ ∨ _))

/-- Any number of operators, each with an operand behind it. -/
inductive Pairs : List TokenKind → Prop
  | nil : Pairs []
  | cons : IsOperator op → IsOperand kind → Pairs kinds → Pairs (op :: kind :: kinds)

/-- An operand, then operators with their operands. -/
inductive Expr : List TokenKind → Prop
  | mk : IsOperand kind → Pairs kinds → Expr (kind :: kinds)

/-- A star or an expression. -/
inductive Field : List TokenKind → Prop
  | star : Field [.star]
  | expr : Expr kinds → Field kinds

/-- Any number of fields, each with a comma before it. -/
inductive MoreFields : List TokenKind → Prop
  | nil : MoreFields []
  | cons : Field field → MoreFields kinds → MoreFields (.comma :: (field ++ kinds))

/-- Nothing, or a table with its word. -/
inductive Table : List TokenKind → Prop
  | absent : Table []
  | present : Table [.kwFrom, .identifier]

/-- Nothing, or an expression with its word. -/
inductive Condition : List TokenKind → Prop
  | absent : Condition []
  | present : Expr kinds → Condition (.kwWhere :: kinds)

end Sentence

/-- The kinds of the tokens of a query that nothing is wrong with. -/
inductive Sentence : List TokenKind → Prop
  | mk {field more table condition : List TokenKind} : Sentence.Field field →
      Sentence.MoreFields more → Sentence.Table table → Sentence.Condition condition →
      Sentence (.kwSelect :: (field ++ more ++ table ++ condition))

/-- Pairs one after the other are pairs. -/
theorem Sentence.Pairs.append (h : Pairs ks) (h' : Pairs ks') : Pairs (ks ++ ks') := by
  induction h with
  | nil => exact h'
  | cons hop hk _ ih => exact .cons hop hk ih

namespace Sentence

/-- A token without a place in the grammar is no operand. -/
theorem IsOperand.ne_error (h : IsOperand kind) : kind ≠ .error := by
  rintro rfl
  obtain h | h := h <;> cases h

/-- A token without a place in the grammar is no operator. -/
theorem IsOperator.ne_error (h : IsOperator kind) : kind ≠ .error := by
  rintro rfl
  obtain h | h | h := h <;> cases h

/-- Operators and operands have a place in the grammar. -/
theorem Pairs.error_not_mem (h : Pairs kinds) : .error ∉ kinds := by
  induction h with
  | nil => exact List.not_mem_nil
  | cons hop hk _ ih => simp [hop.ne_error.symm, hk.ne_error.symm, ih]

/-- The tokens of an expression have a place in the grammar. -/
theorem Expr.error_not_mem (h : Expr kinds) : .error ∉ kinds := by
  obtain ⟨hk, hpairs⟩ := h
  simp [hk.ne_error.symm, hpairs.error_not_mem]

/-- The tokens of a field have a place in the grammar. -/
theorem Field.error_not_mem (h : Field kinds) : .error ∉ kinds := by
  cases h with
  | star => decide
  | expr h => exact h.error_not_mem

/-- The tokens of the fields after the first one have a place in the grammar. -/
theorem MoreFields.error_not_mem (h : MoreFields kinds) : .error ∉ kinds := by
  induction h with
  | nil => exact List.not_mem_nil
  | cons hfield _ ih => simp [hfield.error_not_mem, ih]

/-- The tokens of the clause of the table have a place in the grammar. -/
theorem Table.error_not_mem (h : Table kinds) : .error ∉ kinds := by
  cases h with
  | absent => exact List.not_mem_nil
  | present => decide

/-- The tokens of the clause of the condition have a place in the grammar. -/
theorem Condition.error_not_mem (h : Condition kinds) : .error ∉ kinds := by
  cases h with
  | absent => exact List.not_mem_nil
  | present hexpr => simp [hexpr.error_not_mem]

end Sentence

/-- A sentence holds no mistake. -/
theorem Sentence.error_not_mem (h : Sentence kinds) : .error ∉ kinds := by
  obtain ⟨hfield, hmore, htable, hcondition⟩ := h
  simp [hfield.error_not_mem, hmore.error_not_mem, htable.error_not_mem,
    hcondition.error_not_mem]

/-! ## Tokens without messages -/

/-- The kinds of tokens. -/
abbrev kindsOf (ts : List Token) : List TokenKind := ts.map (·.kind)

/-- No token carries a message. -/
abbrev Clean (ts : List Token) : Prop := ∀ t ∈ ts, t.errors = []

/-- Nothing is wrong with tokens exactly when nothing is wrong with either part of them. -/
theorem clean_append {ts us : List Token} : Clean (ts ++ us) ↔ Clean ts ∧ Clean us :=
  List.forall_mem_append

/-- A token that gets a message has one. -/
theorem Token.withError_errors_ne_nil (t : Token) (message : String) :
    (t.withError message).errors ≠ [] := by
  simp [Token.withError]

/-- Messages stay, so what has none in the end had none before. -/
theorem ExtendTo.clean {ts us : List Token} (h : ExtendTo ts us) (hus : Clean us) : Clean ts := by
  induction h with
  | nil => exact List.forall_mem_nil _
  | cons ht _ ih =>
    have ⟨hu, hus⟩ := List.forall_mem_cons.1 hus
    exact List.forall_mem_cons.2 ⟨List.prefix_nil.1 (hu ▸ ht.errors), ih hus⟩

namespace Derivation

open Grammar Sentence

/-! ## What is read without a message is a sentence -/

/-- A token out of place leaves a message. -/
theorem Skip.not_clean (h : Skip message ts trees rest late) (hlate : late = []) :
    ¬ Clean (Tree.leavesOf trees ++ rest) := by
  cases h with
  | @clause t | @other t =>
    exact fun hc => t.withError_errors_ne_nil message (hc _ (.head _))
  | ending => cases hlate

/-- An operand that nothing is wrong with is a name or a literal. -/
theorem Operand.reads (h : Operand ts tree rest late) (hlate : late = [])
    (hclean : Clean (tree.leaves ++ rest)) : ∃ t, ts = t :: rest ∧ IsOperand t.kind := by
  cases h with
  | name hk => exact ⟨_, rfl, .inl hk⟩
  | string hk => exact ⟨_, rfl, .inr hk⟩
  | broken _ h => exact absurd hclean (h.not_clean hlate)

/-- What binds more tightly than something is an operator. -/
theorem isOperator_of_bindsTighter {left : Option TokenKind} {kind : TokenKind}
    (h : bindsTighter left kind = true) : IsOperator kind := by
  obtain ⟨n, hn, -⟩ := bindsTighter_eq_true h
  cases kind <;> simp_all [IsOperator, TokenKind.precedence?]

/-- Each operator that is read has an operand behind it: the first of its right operand. -/
theorem Operators.reads (h : Operators left lhs ts tree rest late) (hlate : late = [])
    (hclean : Clean (tree.leaves ++ rest)) :
    ∃ us, ts = us ++ rest ∧ Pairs (kindsOf us) := by
  induction h with
  | ending => exact ⟨[], rfl, .nil⟩
  | stop => exact ⟨[], rfl, .nil⟩
  | @more left lhs first rhs tree op ts ts₁ ts₂ rest late₁ late₂ late₃ hop hfirst hrhs h ih₁ ih₂ =>
    obtain ⟨hlate₁₂, hlate₃⟩ := List.append_eq_nil_iff.1 hlate
    obtain ⟨hlate₁, hlate₂⟩ := List.append_eq_nil_iff.1 hlate₁₂
    have hc := clean_append.1 hclean
    -- the tokens of the right operand are among those of the whole tree
    obtain ⟨vs, hvs, hext⟩ := h.extends
    rw [hvs] at hc
    have hts₂ : Clean ts₂ := hext.clean (clean_append.2 ⟨(clean_append.1 hc.1).2, hc.2⟩)
    have hrhs' : Clean rhs.leaves := fun t ht =>
      (clean_append.1 hc.1).1 t (by simp [Tree.leaves, Tree.leavesOf, ht])
    obtain ⟨us, hus, hext₁⟩ := hrhs.extends
    rw [hus] at hrhs'
    have hts₁ : Clean ts₁ := hext₁.clean (clean_append.2 ⟨(clean_append.1 hrhs').2, hts₂⟩)
    obtain ⟨t, rfl, ht⟩ :=
      hfirst.reads hlate₁ (clean_append.2 ⟨(clean_append.1 hrhs').1, hts₁⟩)
    obtain ⟨us₁, rfl, h₁⟩ := ih₁ hlate₂ (clean_append.2 ⟨hus ▸ hrhs', hts₂⟩)
    obtain ⟨us₂, rfl, h₂⟩ := ih₂ hlate₃ hclean
    refine ⟨op :: t :: (us₁ ++ us₂), by simp, ?_⟩
    have hpairs : Pairs (kindsOf us₁ ++ kindsOf us₂) := h₁.append h₂
    rw [kindsOf, List.map_cons, List.map_cons, List.map_append]
    exact .cons (isOperator_of_bindsTighter hop) ht hpairs

/-- An expression that nothing is wrong with is one of the grammar. -/
theorem Expression.reads (h : Expression ts tree rest late) (hlate : late = [])
    (hclean : Clean (tree.leaves ++ rest)) :
    ∃ us, ts = us ++ rest ∧ Expr (kindsOf us) := by
  obtain ⟨hfirst, hops⟩ := h
  obtain ⟨hlate₁, hlate₂⟩ := List.append_eq_nil_iff.1 hlate
  obtain ⟨us, hus, hext⟩ := hops.extends
  have hc := hclean
  rw [hus, List.append_assoc, clean_append] at hc
  obtain ⟨t, rfl, ht⟩ := hfirst.reads hlate₁ (clean_append.2 ⟨hc.1, hext.clean hc.2⟩)
  obtain ⟨vs, rfl, hvs⟩ := hops.reads hlate₂ hclean
  exact ⟨t :: vs, rfl, .mk ht hvs⟩

/-- A field that nothing is wrong with is one of the grammar. -/
theorem Field.reads (h : Field ts trees rest late) (hlate : late = [])
    (hclean : Clean (Tree.leavesOf trees ++ rest)) :
    ∃ us, ts = us ++ rest ∧ Sentence.Field (kindsOf us) := by
  cases h with
  | @star t _ hk => exact ⟨[t], rfl, by simpa [kindsOf, hk] using Sentence.Field.star⟩
  | @comma t => exact absurd (hclean _ (.head _)) (t.withError_errors_ne_nil _)
  | expression _ h =>
    obtain ⟨us, rfl, hus⟩ := h.reads hlate (by simpa [Tree.leavesOf] using hclean)
    exact ⟨us, rfl, .expr hus⟩

/-- A field without a comma before it carries a message, and so does what is no field. -/
theorem MoreFields.reads (h : MoreFields ts trees rest late) (hlate : late = [])
    (hclean : Clean (Tree.leavesOf trees ++ rest)) :
    ∃ us, ts = us ++ rest ∧ Sentence.MoreFields (kindsOf us) := by
  induction h with
  | ending => exact ⟨[], rfl, .nil⟩
  | clause => exact ⟨[], rfl, .nil⟩
  | @comma t _ _ rest trees₁ trees₂ _ _ hk hfield hmore ih =>
    obtain ⟨hlate₁, hlate₂⟩ := List.append_eq_nil_iff.1 hlate
    have hc : Clean (Tree.leavesOf (trees₁ ++ trees₂) ++ rest) :=
      (List.forall_mem_cons.1 hclean).2
    rw [Tree.leavesOf_append, List.append_assoc, clean_append] at hc
    obtain ⟨us, rfl, hus⟩ :=
      hfield.reads hlate₁ (clean_append.2 ⟨hc.1, hmore.extends.clean hc.2⟩)
    obtain ⟨vs, rfl, hvs⟩ := ih hlate₂ hc.2
    refine ⟨t :: (us ++ vs), by simp, ?_⟩
    rw [kindsOf, List.map_cons, hk, List.map_append]
    exact .cons hus hvs
  | @missing t _ _ _ _ _ _ _ _ hfield hmore _ =>
    have hc : Clean (t.withError expectedComma :: _) :=
      (extends_append hfield.extends hmore.extends).clean hclean
    exact absurd (hc _ (.head _)) (t.withError_errors_ne_nil _)
  | @stray t => exact absurd (hclean _ (.head _)) (t.withError_errors_ne_nil _)

/-- Fields that nothing is wrong with are those of the grammar, with commas between them. -/
theorem FieldList.reads (h : FieldList ts tree rest late) (hlate : late = [])
    (hclean : Clean (tree.leaves ++ rest)) :
    ∃ us vs, ts = us ++ vs ++ rest ∧ Sentence.Field (kindsOf us) ∧
      Sentence.MoreFields (kindsOf vs) := by
  obtain ⟨hfield, hmore⟩ := h
  obtain ⟨hlate₁, hlate₂⟩ := List.append_eq_nil_iff.1 hlate
  rw [Tree.leaves, Tree.leavesOf_append, List.append_assoc, clean_append] at hclean
  obtain ⟨us, rfl, hus⟩ :=
    hfield.reads hlate₁ (clean_append.2 ⟨hclean.1, hmore.extends.clean hclean.2⟩)
  obtain ⟨vs, rfl, hvs⟩ := hmore.reads hlate₂ hclean.2
  exact ⟨us, vs, by simp, hus, hvs⟩

/-- Where nothing is wrong, the expected token is there. -/
theorem Expect.reads (h : Expect kind message ts trees rest late) (hlate : late = [])
    (hclean : Clean (Tree.leavesOf trees ++ rest)) : ∃ t, ts = t :: rest ∧ t.kind = kind := by
  cases h with
  | found hk => exact ⟨_, rfl, hk⟩
  | missing _ h => exact absurd hclean (h.not_clean hlate)

/-- A clause of the table that nothing is wrong with is one of the grammar, or none. -/
theorem TableClause.reads (h : TableClause ts trees rest late) (hlate : late = [])
    (hclean : Clean (Tree.leavesOf trees ++ rest)) :
    ∃ us, ts = us ++ rest ∧ Sentence.Table (kindsOf us) := by
  cases h with
  | absent => exact ⟨[], rfl, .absent⟩
  | @present t _ _ trees _ hk h =>
    obtain ⟨u, rfl, hu⟩ := h.reads hlate fun t ht => hclean t (by
      simpa [Tree.leavesOf, Tree.leaves] using .inr (by simpa using ht))
    exact ⟨[t, u], rfl, by simpa [kindsOf, hk, hu] using Sentence.Table.present⟩

/-- A clause of the condition that nothing is wrong with is one of the grammar, or none. -/
theorem ConditionClause.reads (h : ConditionClause ts trees rest late) (hlate : late = [])
    (hclean : Clean (Tree.leavesOf trees ++ rest)) :
    ∃ us, ts = us ++ rest ∧ Sentence.Condition (kindsOf us) := by
  cases h with
  | absent => exact ⟨[], rfl, .absent⟩
  | @present t _ _ tree _ hk h =>
    obtain ⟨us, rfl, hus⟩ := h.reads hlate fun t ht => hclean t (by
      simpa [Tree.leavesOf, Tree.leaves] using .inr (by simpa using ht))
    exact ⟨t :: us, rfl, by simpa [kindsOf, hk] using Condition.present hus⟩

/-- Tokens that are left over carry messages. -/
theorem leftoverTrees_not_clean {ts : List Token} (h : Clean (Tree.leavesOf (leftoverTrees ts))) :
    ts = [] := by
  cases ts with
  | nil => rfl
  | cons t ts => exact absurd (h _ (.head _)) (t.withError_errors_ne_nil _)

/-- A statement without messages is a sentence. -/
theorem Statement.sentence (h : Statement ts tree late) (hlate : late = [])
    (hclean : Clean tree.leaves) : Sentence (kindsOf ts) := by
  obtain ⟨hselect, hfields, htable, hcondition⟩ := h
  obtain ⟨hlate₁₂₃, hlate₄⟩ := List.append_eq_nil_iff.1 hlate
  obtain ⟨hlate₁₂, hlate₃⟩ := List.append_eq_nil_iff.1 hlate₁₂₃
  obtain ⟨hlate₁, hlate₂⟩ := List.append_eq_nil_iff.1 hlate₁₂
  rw [Tree.leaves, Tree.leavesOf_append, Tree.leavesOf, Tree.leavesOf_append,
    Tree.leavesOf_append, clean_append, clean_append, clean_append, clean_append] at hclean
  obtain ⟨hc₁, hc₂, ⟨hc₃, hc₄⟩, hc₅⟩ := hclean
  obtain rfl := leftoverTrees_not_clean hc₅
  -- the rules are read from the last one back: what a rule leaves has no messages either
  have hcondition' := clean_append.2 ⟨hc₄, List.forall_mem_nil _⟩
  have hts₃ := hcondition.extends.clean hcondition'
  have hts₂ := htable.extends.clean (clean_append.2 ⟨hc₃, hts₃⟩)
  have hts₁ := hfields.extends.clean (clean_append.2 ⟨hc₂, hts₂⟩)
  obtain ⟨t, rfl, ht⟩ := hselect.reads hlate₁ (clean_append.2 ⟨hc₁, hts₁⟩)
  obtain ⟨us, vs, rfl, hus, hvs⟩ := hfields.reads hlate₂ (clean_append.2 ⟨hc₂, hts₂⟩)
  obtain ⟨ws, rfl, hws⟩ := htable.reads hlate₃ (clean_append.2 ⟨hc₃, hts₃⟩)
  obtain ⟨xs, rfl, hxs⟩ := hcondition.reads hlate₄ hcondition'
  have hall := Sentence.mk hus hvs hws hxs
  simpa [kindsOf, ht] using hall

/-! ## The tokens of a sentence -/

/-- Tokens of pairs are none, or start with an operator and an operand. -/
theorem pairs_kindsOf {us : List Token} (h : Pairs (kindsOf us)) :
    us = [] ∨ ∃ op t vs, us = op :: t :: vs ∧ IsOperator op.kind ∧ IsOperand t.kind ∧
      Pairs (kindsOf vs) := by
  match us, h with
  | [], _ => exact .inl rfl
  | op :: t :: vs, .cons hop ht hvs => exact .inr ⟨op, t, vs, rfl, hop, ht, hvs⟩

/-- Tokens of an expression start with an operand. -/
theorem expr_kindsOf {us : List Token} (h : Expr (kindsOf us)) :
    ∃ t vs, us = t :: vs ∧ IsOperand t.kind ∧ Pairs (kindsOf vs) := by
  match us, h with
  | t :: vs, .mk ht hvs => exact ⟨t, vs, rfl, ht, hvs⟩

/-- The tokens of a field are a star or an expression. -/
theorem field_kindsOf {us : List Token} (h : Sentence.Field (kindsOf us)) :
    (∃ t, us = [t] ∧ t.kind = .star) ∨ Expr (kindsOf us) := by
  generalize hk : kindsOf us = kinds at h
  cases h with
  | star =>
    obtain ⟨t, rfl, ht⟩ := List.map_eq_singleton_iff.1 hk
    exact .inl ⟨t, rfl, ht⟩
  | expr h => exact .inr h

/-- Tokens of further fields are none, or start with a comma and a field. -/
theorem moreFields_kindsOf {us : List Token} (h : Sentence.MoreFields (kindsOf us)) :
    us = [] ∨ ∃ c vs ws, us = c :: (vs ++ ws) ∧ c.kind = .comma ∧
      Sentence.Field (kindsOf vs) ∧ Sentence.MoreFields (kindsOf ws) := by
  generalize hk : kindsOf us = kinds at h
  cases h with
  | nil => exact .inl (List.map_eq_nil_iff.1 hk)
  | cons hfield hmore =>
    obtain ⟨c, us, rfl, hc, hus⟩ := List.map_eq_cons_iff.1 hk
    obtain ⟨vs, ws, rfl, rfl, rfl⟩ := List.map_eq_append_iff.1 hus
    exact .inr ⟨c, vs, ws, rfl, hc, hfield, hmore⟩

/-- Tokens of a table are none, or its word and its name. -/
theorem table_kindsOf {us : List Token} (h : Sentence.Table (kindsOf us)) :
    us = [] ∨ ∃ t u, us = [t, u] ∧ t.kind = .kwFrom ∧ u.kind = .identifier := by
  generalize hk : kindsOf us = kinds at h
  cases h with
  | absent => exact .inl (List.map_eq_nil_iff.1 hk)
  | present =>
    obtain ⟨t, us, rfl, ht, hus⟩ := List.map_eq_cons_iff.1 hk
    obtain ⟨u, rfl, hu⟩ := List.map_eq_singleton_iff.1 hus
    exact .inr ⟨t, u, rfl, ht, hu⟩

/-- Tokens of a condition are none, or start with its word. -/
theorem condition_kindsOf {us : List Token} (h : Sentence.Condition (kindsOf us)) :
    us = [] ∨ ∃ t vs, us = t :: vs ∧ t.kind = .kwWhere ∧ Expr (kindsOf vs) := by
  generalize hk : kindsOf us = kinds at h
  cases h with
  | absent => exact .inl (List.map_eq_nil_iff.1 hk)
  | present hexpr =>
    obtain ⟨t, vs, rfl, ht, rfl⟩ := List.map_eq_cons_iff.1 hk
    exact .inr ⟨t, vs, rfl, ht, hexpr⟩

/-- The tokens of a sentence are those of its parts. -/
theorem sentence_kindsOf {ts : List Token} (h : Sentence (kindsOf ts)) :
    ∃ t us vs ws xs, ts = t :: (us ++ (vs ++ (ws ++ xs))) ∧ t.kind = .kwSelect ∧
      Sentence.Field (kindsOf us) ∧ Sentence.MoreFields (kindsOf vs) ∧ Sentence.Table (kindsOf ws) ∧
      Sentence.Condition (kindsOf xs) := by
  generalize hk : kindsOf ts = kinds at h
  cases h with
  | mk hfield hmore htable hcondition =>
    obtain ⟨t, ts, rfl, ht, hts⟩ := List.map_eq_cons_iff.1 hk
    obtain ⟨front, xs, rfl, hfront, rfl⟩ := List.map_eq_append_iff.1 hts
    obtain ⟨fields, ws, rfl, hfields, rfl⟩ := List.map_eq_append_iff.1 hfront
    obtain ⟨us, vs, rfl, rfl, rfl⟩ := List.map_eq_append_iff.1 hfields
    exact ⟨t, us, vs, ws, xs, by simp, ht, hfield, hmore, htable, hcondition⟩

/-! ## A sentence is read without a message -/

/-- A name or a literal is read as an operand, without a message. -/
theorem Operand.of_isOperand (h : Operand (t :: ts) tree rest late) (ht : IsOperand t.kind) :
    rest = ts ∧ late = [] ∧ tree.leaves = [t] := by
  cases h with
  | name | string => exact ⟨rfl, rfl, rfl⟩
  | broken hk => exact absurd ht (not_or.2 (hk t rfl))

/-- Operators read as many pairs as belong to them, and leave the other pairs. -/
theorem Operators.of_pairs (h : Operators left lhs ts tree rest late) {us tail : List Token}
    (hts : ts = us ++ tail) (hus : Pairs (kindsOf us))
    (htail : ∀ t ∈ tail.head?, ¬ IsOperator t.kind) :
    ∃ vs ws, us = vs ++ ws ∧ Pairs (kindsOf ws) ∧ rest = ws ++ tail ∧ late = [] ∧
      tree.leaves = lhs.leaves ++ vs := by
  induction h generalizing us with
  | ending => exact ⟨[], us, rfl, hus, hts, rfl, by simp⟩
  | stop => exact ⟨[], us, rfl, hus, hts, rfl, by simp⟩
  | @more _ lhs first rhs tree op ts ts₁ ts₂ rest _ _ _ hop hfirst _ _ ih₁ ih₂ =>
    obtain rfl | ⟨op', t, us', rfl, -, ht, hus'⟩ := pairs_kindsOf hus
    · -- the operator is the first token behind the pairs
      exact absurd (isOperator_of_bindsTighter hop) (htail op (congrArg List.head? hts).symm)
    · obtain ⟨rfl, rfl⟩ : op = op' ∧ ts = t :: (us' ++ tail) := by simpa using hts
      obtain ⟨rfl, rfl, hleaves⟩ := hfirst.of_isOperand ht
      obtain ⟨vs₁, ws₁, rfl, hws₁, rfl, rfl, hrhs⟩ := ih₁ rfl hus'
      obtain ⟨vs₂, ws₂, rfl, hws₂, rfl, rfl, htree⟩ := ih₂ rfl hws₁
      refine ⟨op :: t :: (vs₁ ++ vs₂), ws₂, by simp, hws₂, rfl, rfl, ?_⟩
      simp [htree, hrhs, hleaves, Tree.leaves, Tree.leavesOf]

/-- An expression is read to its end: at its start no operator is left for another one. -/
theorem Expression.of_expr (h : Expression (us ++ tail) tree rest late)
    (hus : Expr (kindsOf us)) (htail : ∀ t ∈ tail.head?, ¬ IsOperator t.kind) :
    rest = tail ∧ late = [] ∧ tree.leaves = us := by
  obtain ⟨hfirst, hops⟩ := h
  obtain ⟨t, us, rfl, ht, hpairs⟩ := expr_kindsOf hus
  obtain ⟨rfl, rfl, hleaves⟩ := hfirst.of_isOperand ht
  obtain ⟨vs, ws, rfl, hws, rfl, rfl, htree⟩ := hops.of_pairs rfl hpairs htail
  obtain rfl | ⟨op, _, _, rfl, hop, -⟩ := pairs_kindsOf hws
  · exact ⟨rfl, rfl, by simp [htree, hleaves]⟩
  · have hstop := hops.bindsTighter_eq_false op rfl
    obtain hk | hk | hk := hop <;> rw [hk] at hstop <;> cases hstop

/-- The kinds of a field are read as one, if no operator follows. -/
theorem Field.of_field (h : Field (us ++ tail) trees rest late)
    (hus : Sentence.Field (kindsOf us)) (htail : ∀ t ∈ tail.head?, ¬ IsOperator t.kind) :
    rest = tail ∧ late = [] ∧ Tree.leavesOf trees = us := by
  obtain ⟨t, rfl, hk⟩ | hexpr := field_kindsOf hus
  · cases h with
    | star => exact ⟨rfl, rfl, rfl⟩
    | comma hc => rw [hk] at hc; cases hc
    | expression hne => exact absurd hk (hne t rfl).1
  · obtain ⟨t, us, rfl, hk, -⟩ := expr_kindsOf hexpr
    cases h with
    | star hs => rw [hs] at hk; exact absurd hk (by simp [IsOperand])
    | comma hc => rw [hc] at hk; exact absurd hk (by simp [IsOperand])
    | expression _ h =>
      obtain ⟨hrest, hlate, hleaves⟩ := h.of_expr hexpr htail
      exact ⟨hrest, hlate, by simpa [Tree.leavesOf] using hleaves⟩

/-- No operator follows a field. -/
theorem not_isOperator_of_moreFields {ws tail : List Token}
    (hws : Sentence.MoreFields (kindsOf ws))
    (htail : ∀ t ∈ tail.head?, t.kind.startsClause = true) :
    ∀ t ∈ (ws ++ tail).head?, ¬ IsOperator t.kind := by
  obtain rfl | ⟨c, _, _, rfl, hc, -⟩ := moreFields_kindsOf hws
  · intro t ht ho
    have hs := htail t ht
    obtain hk | hk | hk := ho <;> rw [hk] at hs <;> cases hs
  · simp [hc, IsOperator]

/-- The kinds of fields after commas are read as such, up to the word of a clause. -/
theorem MoreFields.of_moreFields (h : MoreFields ts trees rest late) {us tail : List Token}
    (hts : ts = us ++ tail) (hus : Sentence.MoreFields (kindsOf us))
    (htail : ∀ t ∈ tail.head?, t.kind.startsClause = true) :
    rest = tail ∧ late = [] ∧ Tree.leavesOf trees = us := by
  induction h generalizing us with
  | ending =>
    obtain ⟨rfl, rfl⟩ := List.append_eq_nil_iff.1 hts.symm
    exact ⟨rfl, rfl, rfl⟩
  | @clause t _ ht =>
    obtain rfl | ⟨c, vs, ws, rfl, hc, -⟩ := moreFields_kindsOf hus
    · exact ⟨hts, rfl, rfl⟩
    · obtain ⟨rfl, -⟩ := List.cons.inj hts
      rw [hc] at ht
      cases ht
  | @comma t ts ts₁ rest _ _ _ _ ht hfield _ ih =>
    obtain rfl | ⟨c, vs, ws, rfl, hc, hvs, hws⟩ := moreFields_kindsOf hus
    · have hstart := htail t (congrArg List.head? hts).symm
      rw [ht] at hstart
      cases hstart
    · obtain ⟨rfl, rfl⟩ : t = c ∧ ts = vs ++ (ws ++ tail) := by simpa using hts
      obtain ⟨rfl, rfl, hfirst⟩ := hfield.of_field hvs (not_isOperator_of_moreFields hws htail)
      obtain ⟨rfl, rfl, hmore⟩ := ih rfl hws
      exact ⟨rfl, rfl, by simp [Tree.leavesOf, Tree.leaves, Tree.leavesOf_append, hfirst, hmore]⟩
  | @missing t _ _ _ _ _ _ _ ht =>
    obtain rfl | ⟨c, vs, ws, rfl, hc, -⟩ := moreFields_kindsOf hus
    · have hstart := htail t (congrArg List.head? hts).symm
      rw [TokenKind.startsClause_of_startsField ht] at hstart
      cases hstart
    · obtain ⟨rfl, -⟩ := List.cons.inj hts
      rw [hc] at ht
      cases ht
  | @stray t _ _ _ _ hclause hcomma =>
    obtain rfl | ⟨c, vs, ws, rfl, hc, -⟩ := moreFields_kindsOf hus
    · have hstart := htail t (congrArg List.head? hts).symm
      rw [hclause] at hstart
      cases hstart
    · obtain ⟨rfl, -⟩ := List.cons.inj hts
      exact absurd hc hcomma

/-- The kinds of fields are read as the fields, up to the word of a clause. -/
theorem FieldList.of_fields (h : FieldList (us ++ (vs ++ tail)) tree rest late)
    (hus : Sentence.Field (kindsOf us)) (hvs : Sentence.MoreFields (kindsOf vs))
    (htail : ∀ t ∈ tail.head?, t.kind.startsClause = true) :
    rest = tail ∧ late = [] ∧ tree.leaves = us ++ vs := by
  obtain ⟨hfield, hmore⟩ := h
  obtain ⟨rfl, rfl, hfirst⟩ := hfield.of_field hus (not_isOperator_of_moreFields hvs htail)
  obtain ⟨rfl, rfl, hrest⟩ := hmore.of_moreFields rfl hvs htail
  exact ⟨rfl, rfl, by simp [Tree.leaves, Tree.leavesOf_append, hfirst, hrest]⟩

/-- An expected token that is there is taken without a message. -/
theorem Expect.of_kind (h : Expect kind message (t :: ts) trees rest late) (ht : t.kind = kind) :
    rest = ts ∧ late = [] ∧ Tree.leavesOf trees = [t] := by
  cases h with
  | found => exact ⟨rfl, rfl, rfl⟩
  | missing hne => exact absurd ht (hne t rfl)

/-- The kinds of a clause of the table are read as one. -/
theorem TableClause.of_table (h : TableClause (us ++ tail) trees rest late)
    (hus : Sentence.Table (kindsOf us)) (htail : ∀ t ∈ tail.head?, t.kind ≠ .kwFrom) :
    rest = tail ∧ late = [] ∧ Tree.leavesOf trees = us := by
  obtain rfl | ⟨t, u, rfl, ht, hu⟩ := table_kindsOf hus
  · cases h with
    | absent => exact ⟨rfl, rfl, rfl⟩
    | present ht => exact absurd ht (htail _ rfl)
  · cases h with
    | absent hne => exact absurd ht (hne t rfl)
    | present _ h =>
      obtain ⟨rfl, rfl, hleaves⟩ := h.of_kind hu
      exact ⟨rfl, rfl, by simp [Tree.leavesOf, Tree.leaves, hleaves]⟩

/-- The kinds of a clause of the condition are read as one. -/
theorem ConditionClause.of_condition (h : ConditionClause us trees rest late)
    (hus : Sentence.Condition (kindsOf us)) :
    rest = [] ∧ late = [] ∧ Tree.leavesOf trees = us := by
  obtain rfl | ⟨t, us, rfl, ht, hexpr⟩ := condition_kindsOf hus
  · cases h with
    | absent => exact ⟨rfl, rfl, rfl⟩
  · cases h with
    | absent hne => exact absurd ht (hne t rfl)
    | present _ h =>
      rw [← List.append_nil us] at h
      obtain ⟨rfl, rfl, hleaves⟩ := h.of_expr hexpr nofun
      exact ⟨rfl, rfl, by simp [Tree.leavesOf, Tree.leaves, hleaves]⟩

/-- Only a clause follows the fields, and no second table follows the table. -/
theorem head_of_clauses {ws xs : List Token} (hws : Sentence.Table (kindsOf ws))
    (hxs : Sentence.Condition (kindsOf xs)) :
    (∀ t ∈ (ws ++ xs).head?, t.kind.startsClause = true) ∧ ∀ t ∈ xs.head?, t.kind ≠ .kwFrom := by
  have hx : ∀ t ∈ xs.head?, t.kind = .kwWhere := by
    obtain rfl | ⟨t, _, rfl, ht, -⟩ := condition_kindsOf hxs
    · nofun
    · simpa using ht
  refine ⟨?_, fun t ht => by simp [hx t ht]⟩
  obtain rfl | ⟨t, _, rfl, ht, -⟩ := table_kindsOf hws
  · exact fun t ht => by simp [hx t ht, TokenKind.startsClause]
  · simp [ht, TokenKind.startsClause]

/-- The tokens of a sentence are read as they are. -/
theorem Statement.of_sentence (h : Statement ts tree late) (hts : Sentence (kindsOf ts)) :
    late = [] ∧ tree.leaves = ts := by
  obtain ⟨t, us, vs, ws, xs, rfl, ht, hus, hvs, hws, hxs⟩ := sentence_kindsOf hts
  have ⟨hclause, hfrom⟩ := head_of_clauses hws hxs
  obtain ⟨hselect, hfields, htable, hcondition⟩ := h
  obtain ⟨rfl, rfl, hfirst⟩ := hselect.of_kind ht
  obtain ⟨rfl, rfl, hlist⟩ := hfields.of_fields hus hvs hclause
  obtain ⟨rfl, rfl, hname⟩ := htable.of_table hws hfrom
  obtain ⟨rfl, rfl, hexpr⟩ := hcondition.of_condition hxs
  refine ⟨rfl, ?_⟩
  simp [Tree.leaves, Tree.leavesOf, Tree.leavesOf_append, leftoverTrees, hfirst, hlist, hname,
    hexpr]

end Derivation

end FeedQuery
