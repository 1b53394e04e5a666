import FeedQuery.Proofs.Compiled
import FeedQuery.Proofs.Derivation.Query
import FeedQuery.Proofs.Query.Print

/-!
# Printing and compiling

A printable query is what its printed form compiles to, with nothing wrong
(`Compiled.ofText_print`), and every query that a text compiles to is printable; so printing and
compiling once more gives the same query (`Compiled.print_roundtrip`). The tokens of a printed query
are known up to their places, and places matter neither for their kinds nor for what they say.
-/

namespace FeedQuery

open Scan FeedQuery.Derivation

/-! ## Tokens up to places -/

/-- The kinds of tokens do not depend on their places. -/
theorem kindsOf_eq_of_unplaced {ts us : List Token} (h : ts.map Token.unplaced = us) :
    kindsOf ts = kindsOf us := by
  rw [← h, kindsOf, kindsOf, List.map_map]
  rfl

/-- What tokens say does not depend on their places. -/
theorem filterMap_says?_of_unplaced {ts us : List Token} (h : ts.map Token.unplaced = us) :
    ts.filterMap Token.says? = us.filterMap Token.says? := by
  rw [← h, List.filterMap_map]
  rfl

/-- A literal says its content. -/
theorem Token.says?_ofLiteral (s : String) : (Token.ofLiteral s).says? = some s := by
  simp [says?, ofLiteral, stripQuotes_toLiteral]

/-- A name is read as an identifier. -/
theorem Token.kind_ofWord {s : String} (h : IsName s) : (Token.ofWord s).kind = .identifier := by
  simp [ofWord, h.2]

/-- A token that is a literal up to its place says the content. -/
theorem Token.says?_of_unplaced {t : Token} {s : String} (h : t.unplaced = .ofLiteral s) :
    t.says? = some s := by
  have hsays : t.unplaced.says? = t.says? := rfl
  rw [← hsays, h, says?_ofLiteral]

namespace Query

/-! ## The kinds of a printed query -/

/-- The fields are one field, then others with commas before them. -/
theorem fieldTokens_kinds (fields : List String) :
    ∃ us vs, fieldTokens fields = us ++ vs ∧ Sentence.Field (kindsOf us) ∧
      Sentence.MoreFields (kindsOf vs) := by
  cases fields with
  | nil => exact ⟨[.ofMark .star "*"], [], rfl, .star, .nil⟩
  | cons f fs =>
    refine ⟨[.ofLiteral f], _, rfl, .expr (.mk (.inr rfl) .nil), ?_⟩
    induction fs with
    | nil => exact .nil
    | cons g fs ih => exact .cons (.expr (.mk (.inr rfl) .nil)) ih

/-- The tokens of a table are a clause of the grammar, or none. -/
theorem tableTokens_kinds {table : String} (h : table = "" ∨ IsName table) :
    Sentence.Table (kindsOf (tableTokens table)) := by
  unfold tableTokens
  split
  case isTrue => exact .absent
  case isFalse hne =>
    have hk := Token.kind_ofWord (h.resolve_left hne)
    rw [kindsOf, List.map_cons, List.map_singleton, hk]
    exact .present

/-- The word of a connector is an operator. -/
theorem connector_kinds (c : Connector) : Sentence.IsOperator (Token.ofWord c.word).kind := by
  cases c with
  | and => exact .inr (.inl rfl)
  | or => exact .inl rfl

/-- Comparisons with connectors between them are an expression. -/
theorem Alternating.kinds {cs : List Condition} (h : Alternating cs) :
    Sentence.Expr (kindsOf (cs.flatMap conditionTokens)) := by
  induction h with
  | one p => exact .mk (.inr rfl) (.cons (.inr (.inr rfl)) (.inr rfl) .nil)
  | @cons cs p c _ ih =>
    have hcons : kindsOf ((.comparison p :: .connector c :: cs).flatMap conditionTokens) =
        .string :: .equals :: .string :: (Token.ofWord c.word).kind ::
          kindsOf (cs.flatMap conditionTokens) := rfl
    rw [hcons]
    generalize kindsOf (cs.flatMap conditionTokens) = kinds at ih
    obtain ⟨ho, hpairs⟩ := ih
    exact .mk (.inr rfl)
      (.cons (.inr (.inr rfl)) (.inr rfl) (.cons (connector_kinds c) ho hpairs))

/-- The tokens of a condition are a clause of the grammar, or none. -/
theorem whereTokens_kinds {cs : List Condition} (h : cs = [] ∨ Alternating cs) :
    Sentence.Condition (kindsOf (whereTokens cs)) := by
  obtain rfl | h := h
  · exact .absent
  · have hexpr := h.kinds
    have hne : cs.isEmpty = false := by cases h <;> rfl
    rw [whereTokens, hne]
    exact .present hexpr

/-- The kinds of a printed query are a sentence. -/
theorem Printable.sentence {q : Query} (h : q.Printable) : Sentence (kindsOf q.tokens) := by
  obtain ⟨us, vs, hfields, hus, hvs⟩ := fieldTokens_kinds q.fields
  have hall := Sentence.mk hus hvs (tableTokens_kinds h.table) (whereTokens_kinds h.alternating)
  have hselect : (Token.ofWord "SELECT").kind = .kwSelect := rfl
  rw [tokens, hfields]
  simpa [kindsOf, hselect] using hall

/-! ## What a printed query asks for -/

/-- The tokens of fields say the fields. -/
theorem filterMap_fieldTokens (fields : List String) :
    (fieldTokens fields).filterMap Token.says? = fields := by
  cases fields with
  | nil => rfl
  | cons f fs =>
    rw [fieldTokens, List.filterMap_cons_some (Token.says?_ofLiteral f)]
    congr 1
    induction fs with
    | nil => rfl
    | cons g fs ih =>
      rw [List.flatMap_cons, List.cons_append, List.filterMap_cons_none rfl, List.cons_append,
        List.filterMap_cons_some (Token.says?_ofLiteral g), List.nil_append, ih]

/-- The tokens of fields start no clause, and are no operators. -/
theorem kind_fieldTokens {fields : List String} {t : Token} (h : t ∈ fieldTokens fields) :
    t.kind.startsClause = false ∧ t.kind.precedence? = none := by
  cases fields with
  | nil =>
    obtain rfl := List.mem_singleton.1 h
    exact ⟨rfl, rfl⟩
  | cons f fs =>
    obtain rfl | h := List.mem_cons.1 h
    · exact ⟨rfl, rfl⟩
    · obtain ⟨g, -, hg⟩ := List.mem_flatMap.1 h
      obtain rfl | rfl : t = .ofMark .comma "," ∨ t = .ofLiteral g := by simpa using hg
      · exact ⟨rfl, rfl⟩
      · exact ⟨rfl, rfl⟩

end Query

namespace Derivation

open Query

/-- From the tokens of fields these fields are read. -/
theorem FieldList.fieldsIn_eq_of_tokens {fs tail : List Token} {fields : List String}
    (h : FieldList (fs ++ tail) tree rest late) (hfs : fs.map Token.unplaced = fieldTokens fields)
    (htail : ∀ t ∈ tail.head?, t.kind.startsClause = true) :
    rest = tail ∧ fieldsIn (some tree) = fields := by
  have hkind : ∀ t ∈ fs, t.kind.startsClause = false ∧ t.kind.precedence? = none := by
    intro t ht
    have hmem : t.unplaced ∈ fieldTokens fields := hfs ▸ List.mem_map_of_mem ht
    have hkinds := kind_fieldTokens hmem
    exact hkinds
  have hbefore := beforeClause_append (fun t ht => (hkind t ht).1) htail
  have hops : NoOperators (fs ++ tail) := by
    intro t ht
    rw [hbefore] at ht
    exact (hkind t ht).2
  refine ⟨?_, ?_⟩
  · obtain ⟨us, vs, hfields, hus, hvs⟩ := fieldTokens_kinds fields
    rw [hfields] at hfs
    obtain ⟨us', vs', rfl, hus', hvs'⟩ := List.map_eq_append_iff.1 hfs
    rw [← kindsOf_eq_of_unplaced hus'] at hus
    rw [← kindsOf_eq_of_unplaced hvs'] at hvs
    rw [List.append_assoc] at h
    exact (h.of_fields hus hvs htail).1
  · rw [h.fieldsIn_eq hops, saidFields, hbefore, filterMap_says?_of_unplaced hfs,
      filterMap_fieldTokens]

/-- From the tokens of a table this table is read. -/
theorem TableClause.tableIn_eq_of_tokens {tb tail : List Token} {table : String}
    (h : TableClause (tb ++ tail) trees rest late) (htb : tb.map Token.unplaced = tableTokens table)
    (htable : table = "" ∨ IsName table) (htail : ∀ t ∈ tail.head?, t.kind ≠ .kwFrom) :
    rest = tail ∧ tableIn trees.head? = table := by
  unfold tableTokens at htb
  split at htb
  case isTrue hempty =>
    obtain rfl := List.map_eq_nil_iff.1 htb
    cases h with
    | absent => exact ⟨rfl, hempty.symm⟩
    | present ht => exact absurd ht (htail _ rfl)
  case isFalse hne =>
    obtain ⟨t, us, rfl, ht, hus⟩ := List.map_eq_cons_iff.1 htb
    obtain ⟨u, rfl, hu⟩ := List.map_eq_singleton_iff.1 hus
    have hfrom : t.kind = .kwFrom := congrArg Token.kind ht
    have hname : u.kind = .identifier :=
      (congrArg Token.kind hu).trans (Token.kind_ofWord (htable.resolve_left hne))
    have htext : u.text = table := congrArg Token.text hu
    obtain ⟨hrest, htableIn⟩ := h.tableIn_eq hfrom hname
    exact ⟨hrest, htableIn.trans htext⟩

/-- Tokens of a comparison compare its parts. -/
theorem compares_of_unplaced {k e v : Token} {p : Predicate} (hp : p.Printable)
    (hk : k.unplaced = .ofLiteral p.key) (he : e.unplaced = .ofMark .equals "=")
    (hv : v.unplaced = .ofLiteral p.value) : Compares k e v p where
  key := Token.says?_of_unplaced hk
  equals := congrArg Token.kind he
  operator := (congrArg Token.text he).trans hp.operator.symm
  value := Token.says?_of_unplaced hv

/-- The word of a connector is that connector. -/
theorem connector?_of_unplaced {t : Token} {c : Connector} (h : t.unplaced = .ofWord c.word) :
    connector? t.kind = some c := by
  have hk : t.unplaced.kind = (Token.ofWord c.word).kind := congrArg Token.kind h
  rw [← Token.kind_unplaced, hk]
  cases c <;> rfl

/-- The tokens of alternating pieces are a comparison, then connectors with comparisons. -/
theorem spells_of_tokens {cs : List Condition} (hcs : Alternating cs)
    (hp : ∀ p, .comparison p ∈ cs → p.Printable) {ts : List Token}
    (hts : ts.map Token.unplaced = cs.flatMap conditionTokens) :
    ∃ k e v us p cs', ts = k :: e :: v :: us ∧ cs = .comparison p :: cs' ∧ Compares k e v p ∧
      Spells us cs' := by
  induction hcs generalizing ts with
  | one p =>
    obtain ⟨k, ts, rfl, hk, hts⟩ := List.map_eq_cons_iff.1 hts
    obtain ⟨e, ts, rfl, he, hts⟩ := List.map_eq_cons_iff.1 hts
    obtain ⟨v, ts, rfl, hv, hts⟩ := List.map_eq_cons_iff.1 hts
    obtain rfl := List.map_eq_nil_iff.1 hts
    have hcompares := compares_of_unplaced (hp p (.head _)) hk he hv
    exact ⟨k, e, v, [], p, [], rfl, rfl, hcompares, .nil⟩
  | @cons cs p c _ ih =>
    obtain ⟨k, ts, rfl, hk, hts⟩ := List.map_eq_cons_iff.1 hts
    obtain ⟨e, ts, rfl, he, hts⟩ := List.map_eq_cons_iff.1 hts
    obtain ⟨v, ts, rfl, hv, hts⟩ := List.map_eq_cons_iff.1 hts
    obtain ⟨op, ts, rfl, hop, hts⟩ := List.map_eq_cons_iff.1 hts
    have hrest : ∀ p, .comparison p ∈ cs → p.Printable := fun q hq => hp q (by simp [hq])
    obtain ⟨k', e', v', us, p', cs', rfl, rfl, hcompares', hspells⟩ := ih hrest hts
    have hcompares := compares_of_unplaced (hp p (.head _)) hk he hv
    exact ⟨k, e, v, _, p, _, rfl, rfl, hcompares,
      .cons (connector?_of_unplaced hop) hcompares' hspells⟩

/-- From the tokens of a condition its pieces are read. -/
theorem ConditionClause.conditionsIn_eq_of_tokens {ts : List Token} {cs : List Condition}
    (h : ConditionClause ts trees rest late) (hts : ts.map Token.unplaced = whereTokens cs)
    (hcs : cs = [] ∨ Alternating cs) (hp : ∀ p, .comparison p ∈ cs → p.Printable) :
    conditionsInClause trees.head? = cs := by
  obtain rfl | hcs := hcs
  · obtain rfl := List.map_eq_nil_iff.1 hts
    cases h with
    | absent => rfl
  · have hne : cs.isEmpty = false := by cases hcs <;> rfl
    rw [whereTokens, hne] at hts
    obtain ⟨t, ts, rfl, ht, hts⟩ := List.map_eq_cons_iff.1 hts
    have hwhere : t.kind = .kwWhere := congrArg Token.kind ht
    obtain ⟨k, e, v, us, p, cs', rfl, rfl, hcompares, hspells⟩ := spells_of_tokens hcs hp hts
    exact h.conditionsIn_eq hwhere hcompares hspells

/-- A statement that is read from the tokens of a printable query asks for that query. -/
theorem Statement.ofStatement_eq {ts : List Token} {q : Query} {children : List Tree}
    (h : Statement ts (.node .selectStmt children []) late)
    (hts : ts.map Token.unplaced = q.tokens) (hq : q.Printable) : ofStatement children = q := by
  obtain ⟨t, us, rfl, ht, hus⟩ := List.map_eq_cons_iff.1 hts
  obtain ⟨front, wh, rfl, hfront, hwh⟩ := List.map_eq_append_iff.1 hus
  obtain ⟨fs, tb, rfl, hfs, htb⟩ := List.map_eq_append_iff.1 hfront
  have hselect : t.kind = .kwSelect := congrArg Token.kind ht
  have hws : Sentence.Table (kindsOf tb) := kindsOf_eq_of_unplaced htb ▸ tableTokens_kinds hq.table
  have hxs : Sentence.Condition (kindsOf wh) :=
    kindsOf_eq_of_unplaced hwh ▸ whereTokens_kinds hq.alternating
  obtain ⟨hclause, hfrom⟩ := head_of_clauses hws hxs
  rw [List.append_assoc] at h
  obtain ⟨first, late₁, ts₁, fields, ts₂, late₂, table, ts₃, late₃, condition, ts₄, late₄,
    hfirst, hfields, htable, hcondition, hquery⟩ := h.exists_clauses
  obtain ⟨rfl, -⟩ := hfirst.of_kind hselect
  obtain ⟨rfl, hfields'⟩ := hfields.fieldsIn_eq_of_tokens hfs hclause
  obtain ⟨rfl, htable'⟩ := htable.tableIn_eq_of_tokens htb hq.table hfrom
  have hcondition' := hcondition.conditionsIn_eq_of_tokens hwh hq.alternating hq.comparisons
  rw [hquery, hfields', htable', hcondition']

end Derivation

/-- A printable query compiles to itself, with nothing wrong. -/
theorem Compiled.ofText_print {q : Query} (hq : q.Printable) :
    ∃ c, ofText q.print = .ok c ∧ c.diagnostics = [] ∧ c.query = q := by
  obtain ⟨tree, late, h⟩ := exists_file (Token.scan q.print)
  obtain ⟨children, rfl, -⟩ := h.grammatical
  have hscan : (Token.scan q.print).map Token.unplaced = q.tokens := Query.lexemes_print hq
  have hsentence : Sentence (kindsOf (Token.scan q.print)) :=
    kindsOf_eq_of_unplaced hscan ▸ hq.sentence
  refine ⟨_, h.ofText_eq, h.diagnostics_eq_nil_iff.2 hsentence, ?_⟩
  obtain ⟨hstatement⟩ := h
  exact hstatement.ofStatement_eq hscan hq

/-- What a text compiles to is a printable query. -/
theorem Compiled.query_printable {text : String} {c : Compiled} (h : ofText text = .ok c) :
    c.query.Printable := by
  obtain ⟨children, late, hfile, rfl⟩ := exists_derivation h
  exact hfile.printable

/-- **Printing and compiling are inverse to each other on queries.** A printable query is what its
printed form compiles to, with nothing wrong; every text compiles to a printable query, which is
therefore what its printed form compiles to. -/
theorem Compiled.print_roundtrip :
    (∀ q : Query, q.Printable →
      ∃ c, ofText q.print = .ok c ∧ c.diagnostics = [] ∧ c.query = q) ∧
    ∀ text : String, ∃ c, ofText text = .ok c ∧ c.query.Printable ∧
      ∃ c', ofText c.query.print = .ok c' ∧ c'.diagnostics = [] ∧ c'.query = c.query := by
  refine ⟨fun q hq => ofText_print hq, fun text => ?_⟩
  obtain ⟨tree, late, h⟩ := exists_file (Token.scan text)
  obtain ⟨children, rfl, -⟩ := h.grammatical
  have hq := query_printable h.ofText_eq
  exact ⟨_, h.ofText_eq, hq, ofText_print hq⟩

/-- Values may hold keywords, commas and blanks. -/
theorem Compiled.print_roundtrip_posts :
    ∃ c, ofText "SELECT 'text', 'a, b' FROM app.posts WHERE 'tag' = 'FROM' OR 'by' = 'x  y'" =
        .ok c ∧ c.diagnostics = [] ∧
      c.query = ⟨"app.posts", [.comparison ⟨"tag", "=", "FROM"⟩, .connector .or,
        .comparison ⟨"by", "=", "x  y"⟩], ["text", "a, b"]⟩ := by
  have hprint : Query.print ⟨"app.posts", [.comparison ⟨"tag", "=", "FROM"⟩, .connector .or,
      .comparison ⟨"by", "=", "x  y"⟩], ["text", "a, b"]⟩ =
        "SELECT 'text', 'a, b' FROM app.posts WHERE 'tag' = 'FROM' OR 'by' = 'x  y'" := by
    decide +kernel
  rw [← hprint]
  refine print_roundtrip.1 _ ⟨.inr (by decide), by decide, .inr (.cons _ _ (.one _)), ?_⟩
  intro p hp
  obtain rfl | rfl : p = ⟨"tag", "=", "FROM"⟩ ∨ p = ⟨"by", "=", "x  y"⟩ := by simpa using hp
  · exact ⟨by decide, rfl, by decide⟩
  · exact ⟨by decide, rfl, by decide⟩

end FeedQuery
