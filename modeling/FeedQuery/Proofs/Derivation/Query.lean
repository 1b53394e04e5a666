import FeedQuery.Proofs.Derivation.Schema
import FeedQuery.Proofs.Query.Extract

/-!
# What derivations ask for

The parts of a query, read off the tokens that a statement is derived from. The fields are what the
tokens before the first clause say, if none of them is an operator (`FieldList.fieldsIn_eq`). A
condition that is spelled as comparisons with connectors between them is read as these
(`Expression.conditionsIn_eq`): precedence groups it into a tree, and the pieces of a tree are those
of its left side, its connector and those of its right side.
-/

namespace FeedQuery

/-- What a token says as an operand. -/
def Token.says? (t : Token) : Option String :=
  match t.kind with
  | .identifier => some t.text
  | .string => some (Query.stripQuotes t.text)
  | _ => none

/-- Only names and literals say something. -/
theorem Token.says?_eq_none {t : Token} (hn : t.kind ≠ .identifier) (hs : t.kind ≠ .string) :
    t.says? = none := by
  unfold says?
  split
  case h_1 heq => exact absurd heq hn
  case h_2 heq => exact absurd heq hs
  case h_3 => rfl

namespace Derivation

open Grammar Query

/-! ## Operands and operators -/

/-- An operand says what its token says. -/
theorem Operand.of_says? (h : Operand (t :: ts) tree rest late) (ht : t.says? = some s) :
    rest = ts ∧ operandText? tree = some s := by
  cases h with
  | name hk => exact ⟨rfl, by simpa [Token.says?, hk, operandText?] using ht⟩
  | string hk => exact ⟨rfl, by simpa [Token.says?, hk, operandText?] using ht⟩
  | broken hk =>
    obtain ⟨hn, hs⟩ := hk t rfl
    rw [Token.says?_eq_none hn hs] at ht
    cases ht

/-- Where no operator that belongs to them comes next, no operators are read. -/
theorem Operators.of_bindsTighter_eq_false (h : Operators left lhs ts tree rest late)
    (hts : ∀ t ∈ ts.head?, bindsTighter left t.kind = false) : tree = lhs ∧ rest = ts := by
  cases h with
  | ending | stop => exact ⟨rfl, rfl⟩
  | more hop => exact absurd hop (by simp [hts _ rfl])

/-! ## The fields -/

/-- The tokens before the first clause. -/
def beforeClause (ts : List Token) : List Token := ts.takeWhile (!·.kind.startsClause)

/-- What the tokens before the first clause say. -/
def saidFields (ts : List Token) : List String := (beforeClause ts).filterMap Token.says?

/-- No operator stands before the first clause. -/
def NoOperators (ts : List Token) : Prop :=
  ∀ t ∈ beforeClause ts, t.kind.precedence? = none

/-- Nothing stands before the word of a clause. -/
theorem beforeClause_clause (ht : t.kind.startsClause = true) (ts : List Token) :
    beforeClause (t :: ts) = [] := by
  simp [beforeClause, ht]

/-- A token that starts no clause stands before the first one. -/
theorem beforeClause_cons (ht : t.kind.startsClause = false) (ts : List Token) :
    beforeClause (t :: ts) = t :: beforeClause ts := by
  simp [beforeClause, ht]

/-- The tokens before a clause, where all of them are known. -/
theorem beforeClause_append {ts tail : List Token} (hts : ∀ t ∈ ts, t.kind.startsClause = false)
    (htail : ∀ t ∈ tail.head?, t.kind.startsClause = true) : beforeClause (ts ++ tail) = ts := by
  induction ts with
  | nil =>
    cases tail with
    | nil => rfl
    | cons t tail => exact beforeClause_clause (htail t rfl) tail
  | cons t ts ih =>
    have ⟨ht, hrest⟩ := List.forall_mem_cons.1 hts
    rw [List.cons_append, beforeClause_cons ht, ih hrest]

/-- Nothing is said before the word of a clause. -/
theorem saidFields_clause (ht : t.kind.startsClause = true) (ts : List Token) :
    saidFields (t :: ts) = [] := by
  rw [saidFields, beforeClause_clause ht, List.filterMap_nil]

/-- A token that says nothing adds nothing. -/
theorem saidFields_cons_none (ht : t.kind.startsClause = false) (hs : t.says? = none)
    (ts : List Token) : saidFields (t :: ts) = saidFields ts := by
  rw [saidFields, beforeClause_cons ht, List.filterMap_cons_none hs, saidFields]

/-- What a token says comes before what the others say. -/
theorem saidFields_cons_some (ht : t.kind.startsClause = false) (hs : t.says? = some s)
    (ts : List Token) : saidFields (t :: ts) = s :: saidFields ts := by
  rw [saidFields, beforeClause_cons ht, List.filterMap_cons_some hs, saidFields]

/-- A message changes nothing of what is said. -/
theorem saidFields_withError (t : Token) (message : String) (ts : List Token) :
    saidFields (t.withError message :: ts) = saidFields (t :: ts) := by
  cases ht : t.kind.startsClause with
  | true => simp [saidFields, beforeClause, Token.withError, ht]
  | false => simp [saidFields, beforeClause, Token.withError, Token.says?, ht, List.filterMap_cons]

/-- Behind a token there is no operator if there is none from it on. -/
theorem NoOperators.tail (h : NoOperators (t :: ts)) (ht : t.kind.startsClause = false) :
    NoOperators ts := by
  intro u hu
  exact h u (by rw [beforeClause_cons ht]; exact .tail _ hu)

/-- A message makes no operator. -/
theorem NoOperators.withError (h : NoOperators (t :: ts)) (message : String) :
    NoOperators (t.withError message :: ts) := by
  intro u hu
  cases ht : t.kind.startsClause with
  | true => simp [beforeClause, Token.withError, ht] at hu
  | false =>
    obtain rfl | hu : u = t.withError message ∨ u ∈ beforeClause ts := by
      simpa [beforeClause, Token.withError, ht] using hu
    · exact h t (by rw [beforeClause_cons ht]; exact .head _)
    · exact h.tail ht u hu

/-- A token without an operator does not bind. -/
theorem NoOperators.bindsTighter_eq_false {ts : List Token} (h : NoOperators ts)
    (left : Option TokenKind) : ∀ t ∈ ts.head?, bindsTighter left t.kind = false := by
  intro t ht
  obtain ⟨us, rfl⟩ : ∃ us, ts = t :: us := List.head?_eq_some_iff.1 ht
  have hnone : t.kind.precedence? = none := by
    cases hc : t.kind.startsClause with
    | true => revert hc; cases t.kind <;> simp [TokenKind.startsClause, TokenKind.precedence?]
    | false => exact h t (by rw [beforeClause_cons hc]; exact .head _)
  simp [bindsTighter, hnone]

/-- What is said where a token is skipped is what is said after it. -/
theorem Skip.saidFields_eq (h : Skip message ts trees rest late)
    (hts : ∀ t ∈ ts.head?, t.says? = none) (hops : NoOperators ts) :
    saidFields ts = saidFields rest ∧ NoOperators rest := by
  cases h with
  | clause => exact ⟨(saidFields_withError ..).symm, hops.withError _⟩
  | other ht => exact ⟨saidFields_cons_none ht (hts _ rfl) _, hops.tail ht⟩
  | ending => exact ⟨rfl, hops⟩

/-- An operand is what its token says. -/
theorem Operand.saidFields_eq (h : Operand ts tree rest late) (hops : NoOperators ts) :
    saidFields ts = (operandText? tree).toList ++ saidFields rest ∧ NoOperators rest := by
  cases h with
  | @name t _ hk | @string t _ hk =>
    have ht : t.kind.startsClause = false := by rw [hk]; rfl
    refine ⟨?_, hops.tail ht⟩
    rw [saidFields_cons_some ht (by rw [Token.says?, hk])]
    rfl
  | broken hk h =>
    refine h.saidFields_eq (fun t ht => ?_) hops
    obtain ⟨hn, hs⟩ := hk t ht
    exact Token.says?_eq_none hn hs

/-- Without operators, an expression is an operand. -/
theorem Expression.saidFields_eq (h : Expression ts tree rest late) (hops : NoOperators ts) :
    saidFields ts = (operandText? tree).toList ++ saidFields rest ∧ NoOperators rest := by
  obtain ⟨hfirst, h⟩ := h
  obtain ⟨hsaid, hops'⟩ := hfirst.saidFields_eq hops
  obtain ⟨rfl, rfl⟩ := h.of_bindsTighter_eq_false (hops'.bindsTighter_eq_false none)
  exact ⟨hsaid, hops'⟩

/-- A field is what its tokens say, where no operator joins any of them. -/
theorem Field.saidFields_eq (h : Field ts trees rest late) (hops : NoOperators ts) :
    saidFields ts = trees.filterMap operandText? ++ saidFields rest ∧ NoOperators rest := by
  cases h with
  | @star t _ hk =>
    have ht : t.kind.startsClause = false := by rw [hk]; rfl
    exact ⟨saidFields_cons_none ht (by rw [Token.says?, hk]) _, hops.tail ht⟩
  | comma => exact ⟨(saidFields_withError ..).symm, hops.withError _⟩
  | @expression _ tree _ _ _ h =>
    obtain ⟨hsaid, hops'⟩ := h.saidFields_eq hops
    refine ⟨?_, hops'⟩
    cases hs : operandText? tree <;> simp [hsaid, hs]

/-- Commas and tokens that cannot start a field say nothing, and a missing comma loses nothing. -/
theorem MoreFields.saidFields_eq (h : MoreFields ts trees rest late) (hops : NoOperators ts) :
    saidFields ts = trees.filterMap operandText? ∧
      ∀ t ∈ rest.head?, t.kind.startsClause = true := by
  induction h with
  | ending => exact ⟨rfl, nofun⟩
  | clause ht => exact ⟨saidFields_clause ht _, by simpa using ht⟩
  | @comma t ts _ _ _ _ _ _ hk hfield _ ih =>
    have ht : t.kind.startsClause = false := by rw [hk]; rfl
    obtain ⟨hsaid, hops₁⟩ := hfield.saidFields_eq (hops.tail ht)
    obtain ⟨hmore, hrest⟩ := ih hops₁
    refine ⟨?_, hrest⟩
    rw [saidFields_cons_none ht (by rw [Token.says?, hk]), hsaid, hmore,
      List.filterMap_cons_none rfl, List.filterMap_append]
  | missing _ hfield _ ih =>
    obtain ⟨hsaid, hops₁⟩ := hfield.saidFields_eq (hops.withError _)
    obtain ⟨hmore, hrest⟩ := ih hops₁
    refine ⟨?_, hrest⟩
    rw [← saidFields_withError, hsaid, hmore, List.filterMap_append]
  | @stray t _ _ _ _ ht hk hf _ ih =>
    obtain ⟨hmore, hrest⟩ := ih (hops.tail ht)
    have hs : t.says? = none := by
      refine Token.says?_eq_none (fun heq => ?_) (fun heq => ?_)
      · rw [heq] at hf; cases hf
      · rw [heq] at hf; cases hf
    refine ⟨?_, hrest⟩
    rw [saidFields_cons_none ht hs, hmore, List.filterMap_cons_none rfl]

/-- The fields are what the tokens before the first clause say, if none of them is an operator. -/
theorem FieldList.fieldsIn_eq (h : FieldList ts tree rest late) (hops : NoOperators ts) :
    fieldsIn (some tree) = saidFields ts := by
  obtain ⟨hfield, hmore⟩ := h
  obtain ⟨hsaid, hops₁⟩ := hfield.saidFields_eq hops
  obtain ⟨hrest, -⟩ := hmore.saidFields_eq hops₁
  rw [hsaid, hrest, ← List.filterMap_append]
  rfl

/-! ## The table -/

/-- The table is the identifier behind its word. -/
theorem TableClause.tableIn_eq (h : TableClause (t :: u :: ts) trees rest late)
    (ht : t.kind = .kwFrom) (hu : u.kind = .identifier) :
    rest = ts ∧ tableIn trees.head? = u.text := by
  cases h with
  | absent hne => exact absurd ht (hne t rfl)
  | present _ h =>
    cases h with
    | missing hne => exact absurd hu (hne u rfl)
    | found =>
      refine ⟨rfl, ?_⟩
      simp [tableIn, Tree.children, Tree.token?, ht, hu]

/-! ## The condition -/

/-- Three tokens that spell a comparison. -/
structure Compares (k e v : Token) (p : Predicate) : Prop where
  key : k.says? = some p.key
  equals : e.kind = .equals
  operator : e.text = p.operator
  value : v.says? = some p.value

/-- Any number of connectors, each with a comparison behind it. -/
inductive Spells : List Token → List Condition → Prop
  | nil : Spells [] []
  | cons {op k e v : Token} {c : Connector} {p : Predicate} {ts : List Token}
      {cs : List Condition} : connector? op.kind = some c → Compares k e v p → Spells ts cs →
      Spells (op :: k :: e :: v :: ts) (.connector c :: .comparison p :: cs)

/-- The connectors are `AND` and `OR`. -/
theorem connector?_eq_some {kind : TokenKind} {c : Connector} (h : connector? kind = some c) :
    kind = .kwAnd ∨ kind = .kwOr := by
  unfold connector? at h
  split at h
  · exact .inl rfl
  · exact .inr rfl
  · cases h

/-- An equals sign binds more tightly than anything but another one. -/
theorem bindsTighter_equals {left : Option TokenKind} (h : left ≠ some .equals) :
    bindsTighter left .equals = true := by
  cases left with
  | none => rfl
  | some kind => cases kind <;> first | rfl | exact absurd rfl h

/-- No connector binds more tightly than an equals sign. -/
theorem Spells.bindsTighter_eq_false {ts : List Token} {cs : List Condition} (h : Spells ts cs) :
    ∀ t ∈ ts.head?, bindsTighter (some .equals) t.kind = false := by
  cases h with
  | nil => nofun
  | @cons op _ _ _ _ _ _ _ hop =>
    intro t ht
    cases ht
    obtain hk | hk := connector?_eq_some hop <;> rw [hk] <;> rfl

/-- A connector stands between the pieces of both its sides. -/
theorem conditionsIn_connector {lhs rhs : Tree} {op : Token} {c : Connector}
    {errors : List String} (hop : connector? op.kind = some c) (hl : conditionsIn lhs ≠ [])
    (hr : conditionsIn rhs ≠ []) :
    conditionsIn (.node .exprBinary [lhs, .leaf op, rhs] errors) =
      conditionsIn lhs ++ .connector c :: conditionsIn rhs := by
  simp [conditionsIn, hop, join, hl, hr]

/-- A comparison is made of the texts of its operands and its operator. -/
theorem conditionsIn_comparison {lhs rhs : Tree} {op : Token} {key value : String}
    {errors : List String} (hop : op.kind = .equals) (hl : operandText? lhs = some key)
    (hr : operandText? rhs = some value) :
    conditionsIn (.node .exprBinary [lhs, .leaf op, rhs] errors) =
      [.comparison ⟨key, op.text, value⟩] := by
  simp [conditionsIn, connector?, hop, comparisonOf, hl, hr]

/-- Operators read as many pieces of a condition as belong to them, and leave the others. The tree
on their left is either a condition already, or the key of a comparison that comes first. -/
theorem Operators.conditionsIn_eq (h : Operators left lhs ts tree rest late)
    (hleft : left ≠ some .equals) :
    (∀ cs, conditionsIn lhs ≠ [] → Spells ts cs →
      ∃ cs₁ cs₂, cs = cs₁ ++ cs₂ ∧ Spells rest cs₂ ∧
        conditionsIn tree = conditionsIn lhs ++ cs₁) ∧
    (∀ k e v us p cs, ts = e :: v :: us → operandText? lhs = k.says? → Compares k e v p →
      Spells us cs →
      ∃ cs₁ cs₂, cs = cs₁ ++ cs₂ ∧ Spells rest cs₂ ∧
        conditionsIn tree = .comparison p :: cs₁) := by
  induction h with
  | ending =>
    refine ⟨fun cs _ hts => ⟨[], cs, rfl, hts, by simp⟩, fun k e v us p cs hts => ?_⟩
    cases hts
  | stop hstop =>
    refine ⟨fun cs _ hts => ⟨[], cs, rfl, hts, by simp⟩, fun k e v us p cs hts _ hp => ?_⟩
    cases hts
    rw [hp.equals, bindsTighter_equals hleft] at hstop
    cases hstop
  | @more left lhs first rhs tree op ts ts₁ ts₂ rest _ _ _ hop hfirst hrhs _ ih₁ ih₂ =>
    refine ⟨fun cs hlhs hts => ?_, fun k e v us p cs hts hkey hp hus => ?_⟩
    · -- a connector: the comparison behind it starts the right operand
      cases hts with
      | @cons _ k e v c p us cs hc hp hus =>
        obtain ⟨rfl, hkey⟩ := hfirst.of_says? hp.key
        have hne : some op.kind ≠ some .equals := by
          obtain hk | hk := connector?_eq_some hc <;> simp [hk]
        obtain ⟨cs₁, cs₂, rfl, hts₂, hrhs'⟩ :=
          (ih₁ hne).2 k e v us p cs rfl (hkey.trans hp.key.symm) hp hus
        have hbinary : conditionsIn (.node .exprBinary [lhs, .leaf op, rhs] []) = _ :=
          conditionsIn_connector hc hlhs (by simp [hrhs'])
        obtain ⟨cs₃, cs₄, rfl, hrest, htree⟩ := (ih₂ hleft).1 cs₂ (by simp [hbinary]) hts₂
        refine ⟨.connector c :: .comparison p :: (cs₁ ++ cs₃), cs₄, by simp, hrest, ?_⟩
        simp [htree, hbinary, hrhs']
    · -- the equals sign: its right operand is the value alone
      cases hts
      obtain ⟨rfl, hvalue⟩ := hfirst.of_says? hp.value
      rw [hp.equals] at hrhs
      obtain ⟨rfl, rfl⟩ := hrhs.of_bindsTighter_eq_false hus.bindsTighter_eq_false
      have hbinary : conditionsIn (.node .exprBinary [lhs, .leaf op, rhs] []) = _ :=
        conditionsIn_comparison hp.equals (hkey.trans hp.key) hvalue
      rw [hp.operator] at hbinary
      obtain ⟨cs₁, cs₂, rfl, hrest, htree⟩ := (ih₂ hleft).1 cs (by simp [hbinary]) hus
      refine ⟨cs₁, cs₂, rfl, hrest, ?_⟩
      simp [htree, hbinary]

/-- A condition that is spelled as comparisons with connectors between them is read as these. -/
theorem Expression.conditionsIn_eq (h : Expression (k :: e :: v :: ts) tree rest late)
    (hp : Compares k e v p) (hts : Spells ts cs) :
    conditionsIn tree = .comparison p :: cs := by
  obtain ⟨hfirst, hops⟩ := h
  obtain ⟨rfl, hkey⟩ := hfirst.of_says? hp.key
  obtain ⟨cs₁, cs₂, rfl, hrest, htree⟩ :=
    (hops.conditionsIn_eq nofun).2 k e v ts p cs rfl (hkey.trans hp.key.symm) hp hts
  have hstop := hops.bindsTighter_eq_false
  cases hrest with
  | nil => rw [htree, List.append_nil]
  | @cons op _ _ _ _ _ _ _ hop =>
    have hnone := hstop op rfl
    obtain hk | hk := connector?_eq_some hop <;> rw [hk] at hnone <;> cases hnone

/-- The condition is what the tokens behind its word spell. -/
theorem ConditionClause.conditionsIn_eq
    (h : ConditionClause (t :: k :: e :: v :: ts) trees rest late) (ht : t.kind = .kwWhere)
    (hp : Compares k e v p) (hts : Spells ts cs) :
    conditionsInClause trees.head? = .comparison p :: cs := by
  cases h with
  | absent hne => exact absurd ht (hne t rfl)
  | @present _ _ _ tree _ _ h =>
    obtain ⟨-, hexpr⟩ := h.grammatical
    rw [← h.conditionsIn_eq hp hts]
    cases tree with
    | leaf => cases hexpr
    | node => rfl

/-! ## Statements -/

/-- What is left over is in error nodes. -/
theorem kind?_leftoverTrees (ts : List Token) :
    ∀ c ∈ leftoverTrees ts, c.kind? = some .errorTree := by
  intro c hc
  obtain ⟨t, -, rfl⟩ := List.mem_map.1 hc
  rfl

/-- What a statement asks for, by its clauses. -/
theorem Statement.exists_clauses
    (h : Statement ts (.node .selectStmt children []) late) :
    ∃ first late₁ ts₁ fields ts₂ late₂ table ts₃ late₃ condition ts₄ late₄,
      Expect .kwSelect expectedSelect ts first ts₁ late₁ ∧ FieldList ts₁ fields ts₂ late₂ ∧
      TableClause ts₂ table ts₃ late₃ ∧ ConditionClause ts₃ condition ts₄ late₄ ∧
      ofStatement children =
        ⟨tableIn table.head?, conditionsInClause condition.head?, fieldsIn (some fields)⟩ := by
  generalize htree : Tree.node .selectStmt children [] = tree at h
  obtain ⟨hselect, hfields, htable, hcondition⟩ := h
  obtain ⟨rfl⟩ : children = _ := (Tree.node.inj htree).2.1
  refine ⟨_, _, _, _, _, _, _, _, _, _, _, _, hselect, hfields, htable, hcondition, ?_⟩
  obtain ⟨first, -, rfl⟩ := hselect.exists_leaves
  obtain ⟨fields, rfl, -⟩ := hfields.grammatical
  exact ofStatement_eq (fun c hc => (htable.grammatical.1 c hc).2)
    (fun c hc => (hcondition.grammatical.1 c hc).2) (kind?_leftoverTrees _)

/-- The fields of a statement are what is said before its first clause, if no operator stands
there. -/
theorem Statement.fields_eq (h : Statement (t :: ts) (.node .selectStmt children []) late)
    (ht : t.kind = .kwSelect) (hops : NoOperators ts) :
    (ofStatement children).fields = saidFields ts := by
  obtain ⟨_, _, _, _, _, _, _, _, _, _, _, _, hselect, hfields, -, -, heq⟩ := h.exists_clauses
  rw [heq]
  cases hselect with
  | found => exact hfields.fieldsIn_eq hops
  | missing hne => exact absurd ht (hne t rfl)

end Derivation

end FeedQuery
