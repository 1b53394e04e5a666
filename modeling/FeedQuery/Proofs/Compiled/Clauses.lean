import FeedQuery.Proofs.Compiled
import FeedQuery.Proofs.Derivation.Clauses
import FeedQuery.Proofs.Derivation.Sentence
import FeedQuery.Proofs.Query.Print

/-!
# The clauses of a text

The table, the fields and the conditions of a query are read off the tokens of its text, whatever is
wrong with it (`Compiled.table_named`, `Compiled.fields_said`, `Compiled.conditions_spelled`).
-/

namespace FeedQuery

/-!
## Where conditions come from

Each piece of a condition is spelled in the text: a comparison by three tokens next to each other, a
connector by its word. `Query.SpelledIn` says this of all pieces at once and in their order, with
any tokens in between. It holds of each tree that the grammar makes of tokens of a text, however
broken (`Query.conditionsIn_spelledIn`): a connector is kept only between pieces of both its sides,
and it stands between the tokens of these. The pieces of a query are spelled behind the first word
of a condition (`Derivation.Statement.spelledIn`).
-/

open FeedQuery.Derivation

/-! ### What tokens say -/

/-- The token says `s` as an operand: it is that name, or that text between quotes. -/
inductive Token.Says (t : Token) (s : String) : Prop
  | name : t.kind = .identifier → t.text = s → t.Says s
  | literal : t.kind = .string → t.text = Query.literal s → t.Says s

/-- The tokens of a text are written there. -/
theorem Token.written_of_mem_scan {text : String} {t : Token} (h : t ∈ Token.scan text) :
    t.Written :=
  ⟨t, Token.lexical_of_mem_scan h, .refl t⟩

/-- Messages change nothing of what a token says. -/
theorem Token.Says.of_extendsTo {t u : Token} (h : u.Says s) (hext : t.ExtendsTo u) : t.Says s := by
  cases h with
  | name hk ht => exact .name (hext.kind ▸ hk) (hext.text ▸ ht)
  | literal hk ht => exact .literal (hext.kind ▸ hk) (hext.text ▸ ht)

/-- What a token says is read as an operand. -/
theorem Token.Says.says?_eq {t : Token} (h : t.Says s) : t.says? = some s := by
  cases h with
  | name hk ht => rw [says?, hk, ht]
  | literal hk ht => rw [says?, hk, ht, Scan.stripQuotes_toLiteral]

/-- A literal of a text says what stands between its quotes. -/
theorem Token.Written.says_stripQuotes {t : Token} (h : t.Written) (hk : t.kind = .string) :
    t.Says (Query.stripQuotes t.text) := by
  refine .literal hk ?_
  obtain ⟨t₀, hlex, hext⟩ := h
  rw [hext.kind] at hk
  rw [hext.text]
  cases hlex with
  | @literal cs =>
    rw [Query.stripQuotes_literal, ← String.toList_inj, Scan.toList_literal]
    simp
  | word => exact absurd hk (TokenKind.keyword?_getD_ne _ .string rfl nofun)
  | comma | star | equals | error => cases hk

/-- An operand of a text says what it is read as. -/
theorem Token.Written.says_of_says? {t : Token} (h : t.Written) (hs : t.says? = some s) :
    t.Says s := by
  unfold says? at hs
  split at hs
  case h_1 hk =>
    cases hs
    exact .name hk rfl
  case h_2 hk =>
    cases hs
    exact h.says_stripQuotes hk
  case h_3 => cases hs

/-- Tokens of a text stay such with further messages. -/
theorem ExtendTo.written {ts us : List Token} (h : ExtendTo ts us) (hts : ∀ t ∈ ts, t.Written) :
    ∀ u ∈ us, u.Written := by
  intro u hu
  obtain ⟨t, ht, hext⟩ := h.exists_of_mem hu
  obtain ⟨t₀, hlex, hext₀⟩ := hts t ht
  exact ⟨t₀, hlex, hext₀.trans hext⟩

/-- Tokens with further messages, split where the tokens without them are. -/
theorem ExtendTo.append_inv {ts us us' : List Token} (h : ExtendTo ts (us ++ us')) :
    ∃ vs vs', ts = vs ++ vs' ∧ ExtendTo vs us ∧ ExtendTo vs' us' :=
  ⟨_, _, (List.take_append_drop us.length ts).symm, List.forall₂_take_append _ _ _ h,
    List.forall₂_drop_append _ _ _ h⟩

/-- The comparison is spelled by three tokens: its key, an equals sign and its value. -/
structure Predicate.SpelledBy (p : Predicate) (k e v : Token) : Prop where
  key : k.Says p.key
  equals : e.kind = .equals
  operator : e.text = p.operator
  value : v.Says p.value

/-- Three tokens spell the same comparison with and without messages. -/
theorem Predicate.SpelledBy.of_extendsTo {k e v k' e' v' : Token} {p : Predicate}
    (h : p.SpelledBy k' e' v') (hk : k.ExtendsTo k') (he : e.ExtendsTo e') (hv : v.ExtendsTo v') :
    p.SpelledBy k e v :=
  ⟨h.key.of_extendsTo hk, he.kind ▸ h.equals, he.text ▸ h.operator, h.value.of_extendsTo hv⟩

/-- The kind of the tokens that are a connector. -/
def Connector.kind : Connector → TokenKind
  | .and => .kwAnd
  | .or => .kwOr

namespace Query

/-- A connector has one kind of token. -/
theorem kind_eq_of_connector? {kind : TokenKind} {c : Connector} (h : connector? kind = some c) :
    kind = c.kind := by
  obtain rfl | rfl := connector?_eq_some h <;> cases h <;> rfl

/-! ### Pieces in tokens -/

/-- The pieces of a condition are spelled in the tokens, one after the other, with any tokens in
between. -/
inductive SpelledIn : List Token → List Condition → Prop
  | nil (ts : List Token) : SpelledIn ts []
  | comparison {k e v : Token} {p : Predicate} {ts : List Token} {cs : List Condition}
      (gap : List Token) : p.SpelledBy k e v → SpelledIn ts cs →
      SpelledIn (gap ++ k :: e :: v :: ts) (.comparison p :: cs)
  | connector {op : Token} {c : Connector} {ts : List Token} {cs : List Condition}
      (gap : List Token) : op.kind = c.kind → SpelledIn ts cs →
      SpelledIn (gap ++ op :: ts) (.connector c :: cs)

namespace SpelledIn

variable {ts us : List Token} {cs ds : List Condition}

/-- More tokens may stand before those that spell the pieces. -/
theorem prepend (h : SpelledIn ts cs) (us : List Token) : SpelledIn (us ++ ts) cs := by
  cases h with
  | nil => exact .nil _
  | comparison gap hp h =>
    rw [← List.append_assoc]
    exact .comparison (us ++ gap) hp h
  | connector gap hop h =>
    rw [← List.append_assoc]
    exact .connector (us ++ gap) hop h

/-- Pieces are spelled one part after the other. -/
theorem append (h : SpelledIn ts cs) (h' : SpelledIn us ds) :
    SpelledIn (ts ++ us) (cs ++ ds) := by
  induction h with
  | nil ts => exact h'.prepend ts
  | comparison gap hp _ ih =>
    rw [List.append_assoc]
    exact .comparison gap hp ih
  | connector gap hop _ ih =>
    rw [List.append_assoc]
    exact .connector gap hop ih

/-- Pieces are spelled without the messages, too. -/
theorem of_extendTo (h : SpelledIn us cs) (hext : ExtendTo ts us) : SpelledIn ts cs := by
  induction h generalizing ts with
  | nil => exact .nil ts
  | comparison gap hp _ ih =>
    obtain ⟨vs, vs', rfl, -, hrest⟩ := hext.append_inv
    cases hrest with
    | cons hk hrest =>
      cases hrest with
      | cons he hrest =>
        cases hrest with
        | cons hv hrest => exact .comparison vs (hp.of_extendsTo hk he hv) (ih hrest)
  | connector gap hop _ ih =>
    obtain ⟨vs, vs', rfl, -, hrest⟩ := hext.append_inv
    cases hrest with
    | cons ht hrest => exact .connector vs (ht.kind ▸ hop) (ih hrest)

/-- The pieces of two sides and of the connector between them, which is dropped with an empty
side. -/
theorem join {op : Token} {c : Connector} (h : SpelledIn ts cs) (hop : op.kind = c.kind)
    (h' : SpelledIn us ds) : SpelledIn (ts ++ op :: us) (Query.join c cs ds) := by
  unfold Query.join
  split
  case isTrue => exact h.append (h'.prepend [op])
  case isFalse => exact h.append (.connector [] hop h')

end SpelledIn

/-! ### Trees -/

/-- An operand that says something is a single token that says it. -/
theorem exists_leaf_of_operandText? {tree : Tree} (h : tree.Genuine)
    (hs : operandText? tree = some s) : ∃ t, tree.leaves = [t] ∧ t.Says s := by
  unfold operandText? at hs
  split at hs
  case h_1 t _ _ =>
    cases hs
    cases h.schema with
    | name hk => exact ⟨t, rfl, .name hk rfl⟩
  case h_2 t _ _ =>
    cases hs
    have hleaf := h.child _ (.head _)
    cases h.schema with
    | string hk => exact ⟨t, rfl, hleaf.leaf_written.says_stripQuotes hk⟩
  case h_3 => cases hs

/-- The pieces of a condition are spelled in its tokens. -/
theorem conditionsIn_spelledIn {tree : Tree} (h : tree.Genuine) :
    SpelledIn tree.leaves (conditionsIn tree) := by
  fun_induction conditionsIn tree with
  | case1 lhs op rhs errors c hop ih ih' =>
    have hl := ih (h.child lhs (by simp))
    have hr := ih' (h.child rhs (by simp))
    simpa [Tree.leaves, Tree.leavesOf] using hl.join (kind_eq_of_connector? hop) hr
  | case2 lhs op rhs errors _ hk =>
    unfold comparisonOf
    split
    case h_1 key value hkey hvalue =>
      obtain ⟨k, hkleaves, hk'⟩ := exists_leaf_of_operandText? (h.child lhs (by simp)) hkey
      obtain ⟨v, hvleaves, hv'⟩ := exists_leaf_of_operandText? (h.child rhs (by simp)) hvalue
      have hp : Predicate.SpelledBy ⟨key, op.text, value⟩ k op v := ⟨hk', hk, rfl, hv'⟩
      simpa [Tree.leaves, Tree.leavesOf, hkleaves, hvleaves] using
        SpelledIn.comparison [] hp (.nil [])
    case h_2 => exact .nil _
  | case3 => exact .nil _
  | case4 => exact .nil _

end Query

namespace Derivation

open Query

/-- The pieces of a condition are spelled behind its word. -/
theorem ConditionClause.spelledIn (h : ConditionClause ts trees rest late)
    (hts : ∀ t ∈ ts, t.Written) :
    SpelledIn (behindWhere ts) (conditionsInClause trees.head?) := by
  cases h with
  | absent => exact .nil _
  | @present t ts rest tree _ hk h =>
    rw [behindWhere_where hk]
    obtain ⟨hg, he⟩ := h.grammatical
    have hleaves := List.forall_mem_append.1 (h.extends.written (List.forall_mem_cons.1 hts).2)
    have hall := (conditionsIn_spelledIn ⟨hg, hleaves.1⟩).append (.nil rest)
    rw [List.append_nil] at hall
    cases tree with
    | leaf => cases he
    | node => exact hall.of_extendTo h.extends

/-- The pieces of the condition of a statement are spelled behind its first word of a condition. -/
theorem Statement.spelledIn (h : Statement ts (.node .selectStmt children []) late)
    (hts : ∀ t ∈ ts, t.Written) :
    SpelledIn (behindWhere ts) (ofStatement children).conditions := by
  obtain ⟨_, _, _, _, _, _, _, _, _, _, _, _, hselect, hfields, htable, hcondition, heq⟩ :=
    h.exists_clauses
  have hts₁ := List.forall_mem_append.1 (hselect.extends.written hts)
  have hts₂ := List.forall_mem_append.1 (hfields.extends.written hts₁.2)
  have hts₃ := List.forall_mem_append.1 (htable.extends.written hts₂.2)
  obtain ⟨hfield, hmore⟩ := hfields
  have hpasses := (hselect.passes rfl).trans (hfield.passes.trans hmore.passes.1)
  rw [heq, hpasses.behindWhere_eq, htable.behindWhere_eq]
  exact hcondition.spelledIn hts₃.2

end Derivation

/-- The pieces of the condition of a text are spelled behind its first word of a condition. -/
theorem Compiled.spelledIn {text : String} {c : Compiled} (h : ofText text = .ok c) :
    Query.SpelledIn (behindWhere (Token.scan text)) c.query.conditions := by
  obtain ⟨children, late, ⟨hstatement⟩, rfl⟩ := exists_derivation h
  exact hstatement.spelledIn fun t ht => Token.written_of_mem_scan ht

/-!
## Where comparisons come from

Every comparison of a query is spelled by three tokens next to each other: a key, an equals sign and
a value. `Query.ReadFrom` says this of all comparisons of a query at once and in their order, with
any tokens in between. It holds of the tokens of the text (`Compiled.readFrom`), since the pieces of
the condition are spelled there (`Compiled.spelledIn`), of which the comparisons are some.
-/

/-- A comparison that is spelled by three tokens is read from them. -/
theorem Predicate.SpelledBy.compares {p : Predicate} {k e v : Token} (h : p.SpelledBy k e v) :
    Compares k e v p :=
  ⟨h.key.says?_eq, h.equals, h.operator, h.value.says?_eq⟩

namespace Query

/-- The comparisons are spelled in the tokens, one after the other, with any tokens in between. -/
inductive ReadFrom : List Token → List Predicate → Prop
  | nil (ts : List Token) : ReadFrom ts []
  | cons {k e v : Token} {p : Predicate} {ts : List Token} {ps : List Predicate}
      (gap : List Token) : Compares k e v p → ReadFrom ts ps →
      ReadFrom (gap ++ k :: e :: v :: ts) (p :: ps)

namespace ReadFrom

variable {ts us : List Token} {ps qs : List Predicate}

/-- More tokens may stand before those that spell the comparisons. -/
theorem prepend (h : ReadFrom ts ps) (us : List Token) : ReadFrom (us ++ ts) ps := by
  cases h with
  | nil => exact .nil _
  | cons gap hp h =>
    rw [← List.append_assoc]
    exact .cons (us ++ gap) hp h

/-- Each comparison has its place: those before it are spelled before it, and those behind it
behind it. -/
theorem exists_place {p : Predicate} (h : ReadFrom ts (ps ++ p :: qs)) :
    ∃ before k e v after, ts = before ++ k :: e :: v :: after ∧ Compares k e v p ∧
      ReadFrom before ps ∧ ReadFrom after qs := by
  induction ps generalizing ts with
  | nil =>
    cases h with
    | cons gap hp h => exact ⟨gap, _, _, _, _, rfl, hp, .nil gap, h⟩
  | cons q ps ih =>
    cases h with
    | @cons k e v _ rest _ gap hq h =>
      obtain ⟨before, k', e', v', after, rfl, hp, hbefore, hafter⟩ := ih h
      refine ⟨gap ++ k :: e :: v :: before, k', e', v', after, ?_, hp, .cons gap hq hbefore,
        hafter⟩
      simp

end ReadFrom

/-- The comparisons among pieces that are spelled. -/
theorem SpelledIn.readFrom {ts : List Token} {cs : List Condition} (h : SpelledIn ts cs) :
    ReadFrom ts (cs.filterMap comparison?) := by
  induction h with
  | nil ts => exact .nil ts
  | comparison gap hp _ ih => exact .cons gap hp.compares ih
  | connector gap _ _ ih =>
    rw [List.append_cons]
    exact ih.prepend _

end Query

/-- The comparisons of a query are spelled in the tokens of its text. -/
theorem Compiled.readFrom {text : String} {c : Compiled} (h : ofText text = .ok c) :
    Query.ReadFrom (Token.scan text) c.query.comparisons := by
  obtain ⟨before, hbefore⟩ := behindWhere_suffix (Token.scan text)
  rw [← hbefore]
  exact (spelledIn h).readFrom.prepend before

/-!
## The parts of a query

Each part of a query is read off the tokens of its text, whatever is wrong with the text. The table
is the name behind the first word of a clause (`Compiled.table_named`). The fields are the operands
before that word, where no operator joins any of them (`Compiled.fields_said`). The condition is
spelled behind the first word of a condition, and its pieces alternate
(`Compiled.conditions_spelled`).
-/

/-- **The table is the name behind the first word of a clause**, when that is the word of a table
and a name stands there; otherwise there is none. Nothing before that word keeps it from being
read, and no later word is taken for it. -/
theorem Compiled.table_named (text : String) :
    ∃ c, ofText text = .ok c ∧ Query.tableOf c.tree = .ok c.query.table ∧
      c.query.table = namedTable (Token.scan text) := by
  obtain ⟨c, hc⟩ := exists_ofText text
  obtain ⟨htable, -, -⟩ := parts_eq hc
  refine ⟨c, hc, htable, ?_⟩
  obtain ⟨children, late, ⟨hstatement⟩, rfl⟩ := exists_derivation hc
  exact hstatement.table_eq

example : namedTable (Token.scan ", ! SELECT = 'a' b FROM posts FROM likes") = "posts" := by
  decide +kernel

/-! ### The fields -/

/-- What is no operator has no level. -/
theorem TokenKind.precedence?_eq_none {kind : TokenKind} (h : ¬ Sentence.IsOperator kind) :
    kind.precedence? = none := by
  cases kind <;> first | rfl | exact absurd (by decide) h

/-- Names and literals say something, and nothing else does. -/
theorem Token.isOperand_iff (t : Token) : Sentence.IsOperand t.kind ↔ t.says?.isSome = true := by
  obtain ⟨kind, text, span, errors⟩ := t
  cases kind <;> simp [Sentence.IsOperand, says?]

/-- The operands among the tokens of a text say what is read of them. -/
theorem Token.forall₂_says {ts : List Token} (h : ∀ t ∈ ts, t.Written) :
    List.Forall₂ Token.Says (ts.filter (Sentence.IsOperand ·.kind))
      (ts.filterMap Token.says?) := by
  induction ts with
  | nil => exact .nil
  | cons t ts ih =>
    have ⟨ht, hts⟩ := List.forall_mem_cons.1 h
    cases hs : t.says? with
    | none =>
      have hk : ¬ Sentence.IsOperand t.kind := by simp [t.isOperand_iff, hs]
      rw [List.filter_cons_of_neg (by simpa using hk), List.filterMap_cons_none hs]
      exact ih hts
    | some s =>
      have hk : Sentence.IsOperand t.kind := by simp [t.isOperand_iff, hs]
      rw [List.filter_cons_of_pos (by simpa using hk), List.filterMap_cons_some hs]
      exact .cons (ht.says_of_says? hs) (ih hts)

/-- What tokens say is determined by them. -/
theorem Token.filterMap_says? {ts : List Token} {fields : List String}
    (h : List.Forall₂ Token.Says ts fields) : ts.filterMap Token.says? = fields := by
  induction h with
  | nil => rfl
  | cons ht _ ih => rw [List.filterMap_cons_some ht.says?_eq, ih]

/-- **The fields are the operands before the first word of a clause**, in their order, when none of
them is joined to another one by an operator. What separates them does not matter: a comma may be
missing or doubled, and stars and mistakes may stand between them. -/
theorem Compiled.fields_said (text : String) :
    ∃ c, ofText text = .ok c ∧ Query.fieldsOf c.tree = .ok c.query.fields ∧
      ∀ select rest, Token.scan text = select :: rest → select.kind = .kwSelect →
        (∀ t ∈ beforeClause rest, ¬ Sentence.IsOperator t.kind) →
        List.Forall₂ Token.Says ((beforeClause rest).filter (Sentence.IsOperand ·.kind))
          c.query.fields := by
  obtain ⟨c, hc⟩ := exists_ofText text
  obtain ⟨-, -, hfields⟩ := parts_eq hc
  refine ⟨c, hc, hfields, fun select rest hscan hselect hops => ?_⟩
  obtain ⟨children, late, ⟨hstatement⟩, rfl⟩ := exists_derivation hc
  rw [hscan] at hstatement
  have heq : (Query.ofStatement children).fields = saidFields rest :=
    hstatement.fields_eq hselect fun t ht => TokenKind.precedence?_eq_none (hops t ht)
  have hwritten : ∀ t ∈ beforeClause rest, t.Written := by
    intro t ht
    have hmem : t ∈ select :: rest := .tail _ ((List.takeWhile_sublist _).subset ht)
    exact Token.written_of_mem_scan (hscan ▸ hmem)
  have hsaid : List.Forall₂ Token.Says _ (saidFields rest) := Token.forall₂_says hwritten
  rwa [← heq] at hsaid

/-- Doubled commas, missing ones, stars and mistakes add no field and lose none. -/
theorem Compiled.fields_said_stray :
    ∃ c, ofText "SELECT ,, a 'b c' ? * SELECT, d FROM x WHERE e" = .ok c ∧
      c.query.fields = ["a", "b c", "d"] := by
  obtain ⟨c, hc, -, h⟩ := fields_said "SELECT ,, a 'b c' ? * SELECT, d FROM x WHERE e"
  have hsaid := h ⟨.kwSelect, "SELECT", ⟨0, 6⟩, []⟩
    (Token.scan "SELECT ,, a 'b c' ? * SELECT, d FROM x WHERE e").tail
    (by decide +kernel) rfl (by decide +kernel)
  refine ⟨c, hc, ?_⟩
  rw [← Token.filterMap_says? hsaid]
  decide +kernel

/-! ### The condition -/

/-- **The condition is spelled behind its word.** The pieces that are read from any tree alternate.
Those of a text are spelled, in their order and next to no others, by the tokens behind the first
word of a condition: a comparison by a key, an equals sign and a value next to each other, and a
connector by its word between the comparisons on its sides. -/
theorem Compiled.conditions_spelled :
    (∀ children errors, ∃ cs, Query.conditionsOf (.node .file children errors) = .ok cs ∧
      (cs = [] ∨ Query.Alternating cs)) ∧
    ∀ text : String, ∃ c, ofText text = .ok c ∧
      Query.conditionsOf c.tree = .ok c.query.conditions ∧
      Query.SpelledIn (behindWhere (Token.scan text)) c.query.conditions := by
  refine ⟨fun children errors => ?_, fun text => ?_⟩
  · exact ⟨_, rfl, Query.conditionsInClause_alternating _⟩
  · obtain ⟨c, hc⟩ := exists_ofText text
    obtain ⟨-, hconditions, -⟩ := parts_eq hc
    exact ⟨c, hc, hconditions, spelledIn hc⟩

end FeedQuery
