import FeedQuery.Proofs.Compiled
import FeedQuery.Proofs.Derivation.Query
import FeedQuery.Proofs.Derivation.Sentence
import FeedQuery.Proofs.Token.Layout

/-!
# Texts with something behind them

A text with a condition asks for the same when anything but an operator follows it
(`Compiled.ofText_followed`), because every rule reads its tokens as it did without what follows.
-/

namespace FeedQuery

/-!
## What follows a statement

A rule that has read its tokens without a message about the end reads them in the same way when more
tokens follow, as long as no operator comes first among these: one lemma for each rule, and
`Derivation.Statement.append` for the statement. All that follows a condition is left over.
-/

open FeedQuery.Derivation

/-- Mistakes behind the clauses ask for nothing. -/
theorem Query.ofStatement_append {children rest : List Tree}
    (hrest : ∀ c ∈ rest, c.kind? = some .errorTree) :
    ofStatement (children ++ rest) = ofStatement children := by
  have hfind (kind : NodeKind) (hne : .errorTree ≠ kind) :
      (children ++ rest).find? (·.kind? == some kind) =
        children.find? (·.kind? == some kind) := by
    rw [List.find?_append, find?_kind_eq_none hne hrest, Option.or_none]
  simp only [ofStatement]
  rw [hfind _ (by decide), hfind _ (by decide), hfind _ (by decide)]

namespace Derivation

open Grammar Sentence

variable {ts us rest : List Token} {tree lhs : Tree} {trees : List Tree} {late : List String}

/-- A token is skipped in the same way when others follow. -/
theorem Skip.append (h : Skip message ts trees rest late) (hlate : late = []) :
    Skip message (ts ++ us) trees (rest ++ us) late := by
  cases h with
  | clause hc => exact .clause hc
  | other hc => exact .other hc
  | ending => cases hlate

/-- A token that is skipped is there, so what follows does not come first. -/
theorem Skip.head?_append (h : Skip message ts trees rest late) (hlate : late = []) :
    (ts ++ us).head? = ts.head? := by
  cases h with
  | clause | other => rfl
  | ending => cases hlate

/-- An operand is read in the same way when other tokens follow. -/
theorem Operand.append (h : Operand ts tree rest late) (hlate : late = []) :
    Operand (ts ++ us) tree (rest ++ us) late := by
  cases h with
  | name hk => exact .name hk
  | string hk => exact .string hk
  | broken hk h => exact .broken (by rwa [h.head?_append hlate]) (h.append hlate)

/-- Operators are read in the same way when no other operator follows. -/
theorem Operators.append {left : Option TokenKind} (h : Operators left lhs ts tree rest late)
    (hlate : late = []) (hus : ∀ t ∈ us.head?, ¬ IsOperator t.kind) :
    Operators left lhs (ts ++ us) tree (rest ++ us) late := by
  induction h with
  | ending =>
    cases us with
    | nil => exact .ending
    | cons u us =>
      refine .stop (Bool.eq_false_iff.2 fun hop => ?_)
      exact hus u rfl (isOperator_of_bindsTighter hop)
  | stop hop => exact .stop hop
  | more hop hfirst _ _ ih₁ ih₂ =>
    obtain ⟨hlate₁₂, hlate₃⟩ := List.append_eq_nil_iff.1 hlate
    obtain ⟨hlate₁, hlate₂⟩ := List.append_eq_nil_iff.1 hlate₁₂
    exact .more hop (hfirst.append hlate₁) (ih₁ hlate₂) (ih₂ hlate₃)

/-- An expression is read in the same way when no operator follows. -/
theorem Expression.append (h : Expression ts tree rest late) (hlate : late = [])
    (hus : ∀ t ∈ us.head?, ¬ IsOperator t.kind) :
    Expression (ts ++ us) tree (rest ++ us) late := by
  obtain ⟨hfirst, hops⟩ := h
  obtain ⟨hlate₁, hlate₂⟩ := List.append_eq_nil_iff.1 hlate
  exact .mk (hfirst.append hlate₁) (hops.append hlate₂ hus)

/-- An expression that is there is not empty. -/
theorem Expression.head?_append (h : Expression ts tree rest late) (hlate : late = []) :
    (ts ++ us).head? = ts.head? := by
  obtain ⟨hfirst, -⟩ := h
  obtain ⟨hlate₁, -⟩ := List.append_eq_nil_iff.1 hlate
  cases hfirst with
  | name | string => rfl
  | broken _ h => exact h.head?_append hlate₁

/-- A field is read in the same way when no operator follows. -/
theorem Field.append (h : Field ts trees rest late) (hlate : late = [])
    (hus : ∀ t ∈ us.head?, ¬ IsOperator t.kind) : Field (ts ++ us) trees (rest ++ us) late := by
  cases h with
  | star hk => exact .star hk
  | comma hk => exact .comma hk
  | expression hk h =>
    exact .expression (by rwa [h.head?_append hlate]) (h.append hlate hus)

/-- The fields go on to the clause that they have ended at. -/
theorem MoreFields.append (h : MoreFields ts trees rest late) (hlate : late = [])
    (hrest : rest ≠ []) (hus : ∀ t ∈ us.head?, ¬ IsOperator t.kind) :
    MoreFields (ts ++ us) trees (rest ++ us) late := by
  induction h with
  | ending => exact absurd rfl hrest
  | clause hc => exact .clause hc
  | comma hk hfield _ ih =>
    obtain ⟨hlate₁, hlate₂⟩ := List.append_eq_nil_iff.1 hlate
    exact .comma hk (hfield.append hlate₁ hus) (ih hlate₂ hrest)
  | missing hk hfield _ ih =>
    obtain ⟨hlate₁, hlate₂⟩ := List.append_eq_nil_iff.1 hlate
    exact .missing hk (hfield.append hlate₁ hus) (ih hlate₂ hrest)
  | stray hc hk hs _ ih => exact .stray hc hk hs (ih hlate hrest)

/-- The fields are read in the same way when a clause has ended them. -/
theorem FieldList.append (h : FieldList ts tree rest late) (hlate : late = [])
    (hrest : rest ≠ []) (hus : ∀ t ∈ us.head?, ¬ IsOperator t.kind) :
    FieldList (ts ++ us) tree (rest ++ us) late := by
  obtain ⟨hfield, hmore⟩ := h
  obtain ⟨hlate₁, hlate₂⟩ := List.append_eq_nil_iff.1 hlate
  exact .mk (hfield.append hlate₁ hus) (hmore.append hlate₂ hrest hus)

/-- An expected token is read in the same way when others follow. -/
theorem Expect.append (h : Expect kind message ts trees rest late) (hlate : late = []) :
    Expect kind message (ts ++ us) trees (rest ++ us) late := by
  cases h with
  | found hk => exact .found hk
  | missing hk h => exact .missing (by rwa [h.head?_append hlate]) (h.append hlate)

/-- The clause of the table is read in the same way when another clause has ended it. -/
theorem TableClause.append (h : TableClause ts trees rest late) (hlate : late = [])
    (hrest : rest ≠ []) : TableClause (ts ++ us) trees (rest ++ us) late := by
  cases h with
  | absent hk =>
    obtain ⟨t, ts, rfl⟩ := List.exists_cons_of_ne_nil hrest
    exact .absent hk
  | present hk h => exact .present hk (h.append hlate)

/-- Tokens that are left behind the table were there before it. -/
theorem TableClause.ne_nil (h : TableClause ts trees rest late) (hrest : rest ≠ []) : ts ≠ [] := by
  cases h with
  | absent => exact hrest
  | present => exact List.cons_ne_nil _ _

/-- The clause of the condition is read in the same way when no operator follows. -/
theorem ConditionClause.append (h : ConditionClause ts trees rest late) (hlate : late = [])
    (htrees : trees ≠ []) (hus : ∀ t ∈ us.head?, ¬ IsOperator t.kind) :
    ConditionClause (ts ++ us) trees (rest ++ us) late := by
  cases h with
  | absent => exact absurd rfl htrees
  | present hk h => exact .present hk (h.append hlate hus)

/-- A condition is made of tokens. -/
theorem ConditionClause.ne_nil (h : ConditionClause ts trees rest late) (htrees : trees ≠ []) :
    ts ≠ [] := by
  cases h with
  | absent => exact absurd rfl htrees
  | present => exact List.cons_ne_nil _ _

/-- **What follows a statement with a condition is left over.** A statement that nothing is wrong
with is read as it was, since its condition goes on with operators only. -/
theorem Statement.append {children : List Tree}
    (h : Statement ts (.node .selectStmt children []) late) (hlate : late = [])
    (hclean : Clean (Tree.leavesOf children))
    (hwhere : children.find? (·.kind? == some .whereClause) ≠ none)
    (hus : ∀ t ∈ us.head?, ¬ IsOperator t.kind) :
    Statement (ts ++ us) (.node .selectStmt (children ++ leftoverTrees us) []) late := by
  generalize htree : Tree.node .selectStmt children [] = tree at h
  obtain ⟨hselect, hfields, htable, hcondition⟩ := h
  obtain ⟨rfl⟩ : children = _ := (Tree.node.inj htree).2.1
  obtain ⟨hlate₁₂₃, hlate₄⟩ := List.append_eq_nil_iff.1 hlate
  obtain ⟨hlate₁₂, hlate₃⟩ := List.append_eq_nil_iff.1 hlate₁₂₃
  obtain ⟨hlate₁, hlate₂⟩ := List.append_eq_nil_iff.1 hlate₁₂
  -- the condition is there, so each rule before it leaves a token
  obtain ⟨first, -, rfl⟩ := hselect.exists_leaves
  obtain ⟨fields, rfl, -⟩ := hfields.grammatical
  obtain ⟨-, -, hfind⟩ := Query.find?_clauses (fun c hc => (htable.grammatical.1 c hc).2)
    (fun c hc => (hcondition.grammatical.1 c hc).2) (kind?_leftoverTrees _) rfl
  rw [hfind, Ne, List.head?_eq_none_iff] at hwhere
  have hts₃ := hcondition.ne_nil hwhere
  have hts₂ := htable.ne_nil hts₃
  -- and nothing is left over behind it
  rw [Tree.leavesOf_append, Tree.leavesOf, Tree.leavesOf_append, clean_append, clean_append,
    clean_append] at hclean
  obtain rfl := leftoverTrees_not_clean hclean.2.2.2
  have hall := Statement.mk (hselect.append hlate₁) (hfields.append hlate₂ hts₂ hus)
    (htable.append hlate₃ hts₃) (hcondition.append hlate₄ hwhere hus)
  simpa [leftoverTrees] using hall

end Derivation

/-!
## What follows a text

A text with a condition that nothing is wrong with asks for the same when anything but an operator
follows it (`Compiled.ofText_followed`). Its tokens are read as they were
(`Token.scan_append_space`), and those behind them are left over (`Derivation.Statement.append`).
-/

/-- A token without messages has been given none. -/
theorem Token.ExtendsTo.eq_of_clean {t u : Token} (h : t.ExtendsTo u) (hu : u.errors = []) :
    u = t := by
  obtain ⟨hkind, htext, hspan, herrors⟩ := h
  have ht : t.errors = [] := List.prefix_nil.1 (hu ▸ herrors)
  cases t
  cases u
  simp_all

/-- Tokens that nothing is wrong with in the end have got no message. -/
theorem ExtendTo.eq_of_clean {ts us : List Token} (h : ExtendTo ts us) (hus : Clean us) :
    us = ts := by
  induction h with
  | nil => rfl
  | cons ht _ ih =>
    have ⟨hu, hrest⟩ := List.forall_mem_cons.1 hus
    rw [ht.eq_of_clean hu, ih hrest]

/-- **What follows a text changes nothing of what it asks for.** Behind a text with a condition that
nothing is wrong with, anything may follow that does not start with an operator: the query stays the
same, each token behind the text is unexpected, and no token of the text gets a message. -/
theorem Compiled.ofText_followed (text suffix : String) :
    let us := (Token.scan suffix).map (Token.movedBy (Text.byteSize text.toList + 1))
    ∃ c c', ofText text = .ok c ∧ ofText (text ++ " " ++ suffix) = .ok c' ∧
      (c.diagnostics = [] → (∃ clause, Query.clause? c.tree .whereClause = .ok (some clause)) →
        (∀ t ∈ (Token.scan suffix).head?, ¬ Sentence.IsOperator t.kind) →
        c'.query = c.query ∧ Token.scan (text ++ " " ++ suffix) = Token.scan text ++ us ∧
        c.tree.leaves = Token.scan text ∧
        c'.tree.leaves = Token.scan text ++ us.map (·.withError "unexpected token")) := by
  intro us
  obtain ⟨c, hc⟩ := exists_ofText text
  obtain ⟨c', hc'⟩ := exists_ofText (text ++ " " ++ suffix)
  refine ⟨c, c', hc, hc', ?_⟩
  rintro hclean ⟨clause, hclause⟩ hsuffix
  obtain ⟨children, late, hfile, rfl⟩ := exists_derivation hc
  obtain ⟨_, -, hg⟩ := hfile.grammatical
  obtain ⟨-, hunmarked⟩ := (Tree.licensed_node ..).1 hg.unmarked
  obtain ⟨hleaves, rfl⟩ := (Tree.diagnostics_eq_nil hunmarked _ _).1 hclean
  rw [Tree.leavesOf_singleton, Tree.leaves] at hleaves
  obtain ⟨hstatement⟩ := hfile
  have hkept : Tree.leavesOf children = Token.scan text :=
    ExtendTo.eq_of_clean hstatement.extends hleaves
  have hscan : Token.scan (text ++ " " ++ suffix) = Token.scan text ++ us :=
    Token.scan_append_space (hkept ▸ hleaves) suffix
  have hfind : children.find? (·.kind? == some .whereClause) ≠ none :=
    Option.ne_none_iff_exists'.2 ⟨clause, Except.ok.inj hclause⟩
  have hus : ∀ t ∈ us.head?, ¬ Sentence.IsOperator t.kind := by
    simpa [us, List.head?_map] using hsuffix
  have hfile' := File.mk (hstatement.append rfl hleaves hfind hus)
  rw [← hscan] at hfile'
  obtain rfl := Except.ok.inj (hc'.symm.trans hfile'.ofText_eq)
  refine ⟨Query.ofStatement_append (kind?_leftoverTrees us), hscan, ?_, ?_⟩
  · rw [Tree.leaves, Tree.leavesOf_singleton, Tree.leaves, hkept]
  · rw [Tree.leaves, Tree.leavesOf_singleton, Tree.leaves, Tree.leavesOf_append, hkept,
      leavesOf_leftoverTrees]
    rfl

/-- Clauses may follow, and a literal without an end. -/
theorem Compiled.ofText_followed_where :
    ∃ c, ofText "SELECT a FROM posts WHERE by = 'x' WHERE b = 'c' , FROM likes 'd" = .ok c ∧
      c.query = ⟨"posts", [.comparison ⟨"by", "=", "x"⟩], ["a"]⟩ ∧
      c.tree.leaves.map (·.errors) = List.replicate 8 [] ++ List.replicate 7 ["unexpected token"] ++
        [["unterminated string literal", "unexpected token"]] := by
  obtain ⟨c, c', hc, hc', h⟩ :=
    ofText_followed "SELECT a FROM posts WHERE by = 'x'" "WHERE b = 'c' , FROM likes 'd"
  have hread : (ofText "SELECT a FROM posts WHERE by = 'x'").toOption.map (fun c =>
      (c.diagnostics, (Query.clause? c.tree .whereClause).toOption.join.isSome, c.query)) =
      some ([], true, ⟨"posts", [.comparison ⟨"by", "=", "x"⟩], ["a"]⟩) := by decide +kernel
  obtain ⟨hclean, hwhere, hquery⟩ : c.diagnostics = [] ∧
      (Query.clause? c.tree .whereClause).toOption.join.isSome = true ∧
      c.query = ⟨"posts", [.comparison ⟨"by", "=", "x"⟩], ["a"]⟩ := by
    rw [hc] at hread
    simpa [Except.toOption] using hread
  obtain ⟨clause, hclause⟩ : ∃ clause, Query.clause? c.tree .whereClause = .ok (some clause) := by
    cases hresult : Query.clause? c.tree .whereClause with
    | error => simp [hresult, Except.toOption] at hwhere
    | ok clause =>
      rw [hresult] at hwhere
      obtain ⟨clause, rfl⟩ := Option.isSome_iff_exists.1 hwhere
      exact ⟨clause, rfl⟩
  obtain ⟨hsame, -, -, hleaves⟩ := h hclean ⟨clause, hclause⟩ (by decide +kernel)
  refine ⟨c', hc', hsame.trans hquery, ?_⟩
  rw [hleaves]
  decide +kernel

end FeedQuery
