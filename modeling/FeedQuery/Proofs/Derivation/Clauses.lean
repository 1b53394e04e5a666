import FeedQuery.Proofs.Derivation.Query

/-!
# Where clauses start

The rules before a clause read the tokens ahead one after the other: they take those that start no
clause, and they add messages to the next one (`Derivation.Passes`). So the fields end where the
first clause starts, whatever stands before it (`Derivation.FieldList.rest_eq`), and the condition
starts with its word when nothing but the fields and a table with one name at most come before that
(`Derivation.Statement.conditionClause_of_leads`).

What is read off the tokens from the first clause on is the same before such a rule and after it.
This holds of the table that they name (`Derivation.namedTable`) and of the tokens behind the first
word of a condition (`Derivation.behindWhere`).
-/

namespace FeedQuery.Derivation

open Grammar

/-- From the tokens `ts` ahead a rule goes on to `rest`: it takes tokens that start no clause, and
adds messages to the next token. -/
inductive Passes : List Token → List Token → Prop
  | refl : Passes ts ts
  | complain {t : Token} {ts rest : List Token} (message : String) :
      Passes (t.withError message :: ts) rest → Passes (t :: ts) rest
  | take : t.kind.startsClause = false → Passes ts rest → Passes (t :: ts) rest

/-- Two rules one after the other take tokens that start no clause if both do. -/
theorem Passes.trans (h : Passes ts us) (h' : Passes us vs) : Passes ts vs := by
  induction h with
  | refl => exact h'
  | complain message _ ih => exact .complain message (ih h')
  | take ht _ ih => exact .take ht (ih h')

/-- What stops at the start of a clause has passed nothing but the tokens before the first one. -/
theorem Passes.rest_eq (h : Passes ts rest) {before after : List Token} {c : Token}
    (hts : ts = before ++ c :: after) (hbefore : ∀ t ∈ before, t.kind.startsClause = false)
    (hc : c.kind.startsClause = true) (hrest : ∀ t ∈ rest.head?, t.kind.startsClause = true) :
    ∃ c', c.ExtendsTo c' ∧ rest = c' :: after := by
  induction h generalizing before c with
  | refl =>
    cases before with
    | nil => exact ⟨c, .refl c, hts⟩
    | cons t before =>
      have hclause := hrest t (by simp [hts])
      rw [hbefore t (.head _)] at hclause
      cases hclause
  | @complain t ts rest message _ ih =>
    cases before with
    | nil =>
      obtain ⟨rfl, rfl⟩ := List.cons.inj hts
      obtain ⟨c', hext, rfl⟩ := ih (List.nil_append _).symm (List.forall_mem_nil _) hc hrest
      exact ⟨c', (t.extendsTo_withError message).trans hext, rfl⟩
    | cons u before =>
      obtain ⟨rfl, rfl⟩ := List.cons.inj hts
      have ⟨ht, hbefore⟩ := List.forall_mem_cons.1 hbefore
      exact ih List.cons_append.symm (List.forall_mem_cons.2 ⟨ht, hbefore⟩) hc hrest
  | take ht _ ih =>
    cases before with
    | nil =>
      obtain ⟨rfl, rfl⟩ := List.cons.inj hts
      rw [ht] at hc
      cases hc
    | cons u before =>
      obtain ⟨rfl, rfl⟩ := List.cons.inj hts
      exact ih rfl (List.forall_mem_cons.1 hbefore).2 hc hrest

/-! ## The rules before a clause -/

/-- No word of a clause is skipped. -/
theorem Skip.passes (h : Skip message ts trees rest late) : Passes ts rest := by
  cases h with
  | clause => exact .complain message .refl
  | other ht => exact .take ht .refl
  | ending => exact .refl

/-- No word of a clause is taken in place of another token. -/
theorem Expect.passes (h : Expect kind message ts trees rest late)
    (hkind : kind.startsClause = false) : Passes ts rest := by
  cases h with
  | found hk => exact .take (hk ▸ hkind) .refl
  | missing _ h => exact h.passes

/-- An operand takes no word of a clause. -/
theorem Operand.passes (h : Operand ts tree rest late) : Passes ts rest := by
  cases h with
  | name hk | string hk => exact .take (by rw [hk]; rfl) .refl
  | broken _ h => exact h.passes

/-- An operator starts no clause. -/
theorem startsClause_of_bindsTighter {left : Option TokenKind} {kind : TokenKind}
    (h : bindsTighter left kind = true) : kind.startsClause = false := by
  cases kind <;> first | rfl | cases h

/-- Operators take no word of a clause. -/
theorem Operators.passes (h : Operators left lhs ts tree rest late) : Passes ts rest := by
  induction h with
  | ending | stop => exact .refl
  | more hop hfirst _ _ ih₁ ih₂ =>
    exact .take (startsClause_of_bindsTighter hop) (hfirst.passes.trans (ih₁.trans ih₂))

/-- A field takes no word of a clause. -/
theorem Field.passes (h : Field ts trees rest late) : Passes ts rest := by
  cases h with
  | star hk => exact .take (by rw [hk]; rfl) .refl
  | comma => exact .complain expectedField .refl
  | expression _ h =>
    obtain ⟨hfirst, hops⟩ := h
    exact hfirst.passes.trans hops.passes

/-- The fields go on to the start of a clause. -/
theorem MoreFields.passes (h : MoreFields ts trees rest late) :
    Passes ts rest ∧ ∀ t ∈ rest.head?, t.kind.startsClause = true := by
  induction h with
  | ending => exact ⟨.refl, nofun⟩
  | clause ht => exact ⟨.refl, by simpa using ht⟩
  | comma hk hfield _ ih => exact ⟨.take (by rw [hk]; rfl) (hfield.passes.trans ih.1), ih.2⟩
  | missing _ hfield _ ih => exact ⟨.complain expectedComma (hfield.passes.trans ih.1), ih.2⟩
  | stray ht _ _ _ ih => exact ⟨.take ht ih.1, ih.2⟩

/-- The fields end where the first clause starts. -/
theorem FieldList.rest_eq {first : List Tree} {fields : Tree} {late₁ late₂ : List String}
    {before ts₁ rest after : List Token} {c : Token}
    (hselect : Expect .kwSelect expectedSelect (before ++ c :: after) first ts₁ late₁)
    (hfields : FieldList ts₁ fields rest late₂)
    (hbefore : ∀ t ∈ before, t.kind.startsClause = false) (hc : c.kind.startsClause = true) :
    ∃ c', c.ExtendsTo c' ∧ rest = c' :: after := by
  obtain ⟨hfield, hmore⟩ := hfields
  have hpasses := (hselect.passes rfl).trans (hfield.passes.trans hmore.passes.1)
  exact hpasses.rest_eq rfl hbefore hc hmore.passes.2

/-! ## The condition -/

/-- The tokens before the condition: fields, then possibly the word of a table with one token behind
it at most. -/
inductive Leads : List Token → Prop
  | fields : (∀ t ∈ ts, t.kind.startsClause = false) → Leads ts
  | table {t : Token} {ts us : List Token} : (∀ u ∈ ts, u.kind.startsClause = false) →
      t.kind = .kwFrom → us.length ≤ 1 → (∀ u ∈ us, u.kind.startsClause = false) →
      Leads (ts ++ t :: us)

/-- What stands where the name of a table is expected is taken unless it starts a clause. -/
theorem Expect.rest_eq {us after rest : List Token} {w : Token} {trees : List Tree}
    {late : List String} (h : Expect kind message (us ++ w :: after) trees rest late)
    (hlength : us.length ≤ 1) (hus : ∀ u ∈ us, u.kind.startsClause = false)
    (hw : w.kind.startsClause = true) (hkind : kind.startsClause = false) :
    ∃ w', w.ExtendsTo w' ∧ rest = w' :: after := by
  cases us with
  | nil =>
    cases h with
    | found hk => rw [hk, hkind] at hw; cases hw
    | missing _ h =>
      cases h with
      | clause => exact ⟨_, w.extendsTo_withError message, rfl⟩
      | other hc => rw [hw] at hc; cases hc
  | cons u us =>
    obtain rfl : us = [] := List.eq_nil_of_length_eq_zero (by simpa using hlength)
    cases h with
    | found => exact ⟨w, .refl w, rfl⟩
    | missing _ h =>
      cases h with
      | clause hc => rw [hus u (.head _)] at hc; cases hc
      | other => exact ⟨w, .refl w, rfl⟩

/-- Without its word there is no clause of the table. -/
theorem TableClause.of_absent (h : TableClause (t :: ts) trees rest late) (ht : t.kind ≠ .kwFrom) :
    rest = t :: ts := by
  cases h with
  | absent => rfl
  | present hk => exact absurd hk ht

/-- **The condition starts with its word**, when fields and a table come before that. -/
theorem Statement.conditionClause_of_leads {before after : List Token} {w : Token}
    {children : List Tree}
    (h : Statement (before ++ w :: after) (.node .selectStmt children []) late)
    (hbefore : Leads before) (hw : w.kind = .kwWhere) :
    ∃ w' condition rest late', w.ExtendsTo w' ∧
      ConditionClause (w' :: after) condition rest late' ∧
      children.find? (·.kind? == some .whereClause) = condition.head? := by
  generalize htree : Tree.node .selectStmt children [] = tree at h
  obtain ⟨hselect, hfields, htable, hcondition⟩ := h
  have hchildren := (Tree.node.inj htree).2.1
  obtain ⟨first, -, rfl⟩ := hselect.exists_leaves
  obtain ⟨fields, rfl, -⟩ := hfields.grammatical
  obtain ⟨-, -, hfind⟩ := Query.find?_clauses (fun c hc => (htable.grammatical.1 c hc).2)
    (fun c hc => (hcondition.grammatical.1 c hc).2) (kind?_leftoverTrees _) hchildren
  have hclause : w.kind.startsClause = true := by rw [hw]; rfl
  cases hbefore with
  | fields hts =>
    obtain ⟨c, hext, rfl⟩ := FieldList.rest_eq hselect hfields hts hclause
    obtain rfl := htable.of_absent (by rw [hext.kind, hw]; decide)
    exact ⟨c, _, _, _, hext, hcondition, hfind⟩
  | @table f ts us hts hf hlength hus =>
    rw [List.append_assoc, List.cons_append] at hselect
    obtain ⟨c, hext, rfl⟩ := FieldList.rest_eq hselect hfields hts (by rw [hf]; rfl)
    cases htable with
    | absent hne => exact absurd (hext.kind.trans hf) (hne c rfl)
    | present _ htable =>
      obtain ⟨w', hext', rfl⟩ := htable.rest_eq hlength hus hclause rfl
      exact ⟨w', _, _, _, hext', hcondition, hfind⟩

/-! ## The table that is named -/

/-- The name behind the first word that starts a clause, when that word is the one of a table. -/
def namedTable (ts : List Token) : String :=
  match ts.dropWhile (!·.kind.startsClause) with
  | word :: name :: _ => if word.kind = .kwFrom ∧ name.kind = .identifier then name.text else ""
  | _ => ""

/-- The rules before a clause pass the table on: they take no word of a clause, and messages change
neither kinds nor texts. -/
theorem Passes.namedTable_eq (h : Passes ts rest) : namedTable ts = namedTable rest := by
  induction h with
  | refl => rfl
  | @complain t ts _ message _ ih =>
    rw [← ih]
    cases ht : t.kind.startsClause with
    | true => cases ts <;> simp [namedTable, Token.withError, ht]
    | false => simp [namedTable, Token.withError, ht]
  | take ht _ ih => simpa [namedTable, ht] using ih

/-- Where the fields have ended, the table that is read is the one that is named. -/
theorem TableClause.tableIn_eq_namedTable (h : TableClause ts trees rest late)
    (hts : ∀ t ∈ ts.head?, t.kind.startsClause = true) :
    Query.tableIn trees.head? = namedTable ts := by
  cases h with
  | absent hne =>
    cases ts with
    | nil => rfl
    | cons t ts =>
      have ht := hts t rfl
      have hk : t.kind ≠ .kwFrom := hne t rfl
      cases ts <;> simp [namedTable, ht, hk, Query.tableIn]
  | present hk h =>
    cases h with
    | found hname => simp [namedTable, hk, hname, Query.tableIn, Tree.children, Tree.token?,
        TokenKind.startsClause]
    | missing hne h =>
      cases h with
      | clause | other =>
        have hne := hne _ rfl
        simp [namedTable, hk, hne, Query.tableIn, Tree.children, Tree.token?, Token.withError,
          TokenKind.startsClause]
      | ending => simp [namedTable, hk, Query.tableIn, Tree.children, Tree.token?,
          TokenKind.startsClause]

/-- The table of a statement is the one that its tokens name. -/
theorem Statement.table_eq (h : Statement ts (.node .selectStmt children []) late) :
    (Query.ofStatement children).table = namedTable ts := by
  obtain ⟨_, _, _, _, _, _, _, _, _, _, _, _, hselect, ⟨hfield, hmore⟩, htable, -, heq⟩ :=
    h.exists_clauses
  have hpasses := (hselect.passes rfl).trans (hfield.passes.trans hmore.passes.1)
  rw [heq, hpasses.namedTable_eq]
  exact htable.tableIn_eq_namedTable hmore.passes.2

/-! ## The tokens of the condition -/

/-- The tokens behind the first word of a condition. -/
def behindWhere (ts : List Token) : List Token := (ts.dropWhile (·.kind != .kwWhere)).tail

/-- What stands behind the first word of a condition is the end of the tokens. -/
theorem behindWhere_suffix (ts : List Token) : behindWhere ts <:+ ts :=
  (List.tail_suffix _).trans (List.dropWhile_suffix _)

/-- Another token makes no difference to what stands behind the first word of a condition. -/
theorem behindWhere_cons (ht : t.kind ≠ .kwWhere) (ts : List Token) :
    behindWhere (t :: ts) = behindWhere ts := by
  simp [behindWhere, ht]

/-- Behind the word of a condition stand all other tokens. -/
theorem behindWhere_where (ht : t.kind = .kwWhere) (ts : List Token) :
    behindWhere (t :: ts) = ts := by
  simp [behindWhere, ht]

/-- The rules before a clause pass the tokens of the condition on. -/
theorem Passes.behindWhere_eq (h : Passes ts rest) : behindWhere ts = behindWhere rest := by
  induction h with
  | refl => rfl
  | @complain t ts _ message _ ih =>
    rw [← ih]
    by_cases ht : t.kind = .kwWhere
    · rw [behindWhere_where ht, behindWhere_where (t := t.withError message) ht]
    · rw [behindWhere_cons ht, behindWhere_cons (t := t.withError message) ht]
  | take ht _ ih =>
    refine (behindWhere_cons (fun hk => ?_) _).trans ih
    rw [hk] at ht
    cases ht

/-- So does the table: the word that it starts with is not the one of a condition. -/
theorem TableClause.behindWhere_eq (h : TableClause ts trees rest late) :
    behindWhere ts = behindWhere rest := by
  cases h with
  | absent => rfl
  | @present t _ _ _ _ hk h =>
    have hne : t.kind ≠ .kwWhere := by rw [hk]; decide
    rw [behindWhere_cons hne, (h.passes rfl).behindWhere_eq]

end FeedQuery.Derivation
