import FeedQuery.Proofs.Derivation.Recording
import FeedQuery.Proofs.Derivation.Schema
import FeedQuery.Proofs.Derivation.Sentence
import FeedQuery.Proofs.Query.Extract
import FeedQuery.Proofs.Token.Scan
import FeedQuery.Proofs.Tree
import FeedQuery.Query

/-!
# Every text compiles

A tree and a query are made of the trace of any tokens, so a text always compiles; strict
compilation accepts exactly the texts whose tokens are a sentence (`Compiled.strict_iff_sentence`).
-/

namespace FeedQuery

/-!
## The tree and the query of any tokens

The trace of any tokens is the trace of a tree with one statement (`Derivation.File.ofTrace_eq`), so
that a tree can be made of it and a query read from the tree; no fault is possible. The tree holds
the tokens that it was made of, in their order, with messages added behind those that they had.
-/

open FeedQuery.Derivation

/-- The tree of tokens is the one that they are derived as, with the messages about the end of the
query on its root. -/
theorem Derivation.File.ofTrace_eq
    (h : File ts (.node .file children []) late) :
    Tree.ofTrace (Trace.ofTokens ts) = .ok (.node .file children late) := by
  obtain ⟨_, -, hg⟩ := h.grammatical
  obtain ⟨-, hc⟩ := (Tree.licensed_node ..).1 hg.unmarked
  rw [h.ofTokens_eq]
  exact Tree.ofTrace_events hc late

/-- Tokens are derived as one tree only. -/
theorem Derivation.File.unique (h : File ts tree late) (h' : File ts tree' late') :
    tree = tree' ∧ late = late' := by
  obtain ⟨children, rfl, -⟩ := h.grammatical
  obtain ⟨children', rfl, -⟩ := h'.grammatical
  have hlate : late = late' := congrArg Trace.unreported (h.ofTokens_eq.symm.trans h'.ofTokens_eq)
  subst hlate
  have htree := Except.ok.inj (h.ofTrace_eq.symm.trans h'.ofTrace_eq)
  cases htree
  exact ⟨rfl, rfl⟩

/-- What a text is compiled to, by its derivation. -/
theorem Derivation.File.ofText_eq {text : String}
    (h : File (Token.scan text) (.node .file [.node .selectStmt children []] []) late) :
    Compiled.ofText text = .ok ⟨.node .file [.node .selectStmt children []] late,
      Query.ofStatement children,
      (Tree.node .file [.node .selectStmt children []] late).diagnostics⟩ := by
  rw [Compiled.ofText, Trace.ofText, h.ofTrace_eq]
  simp only [bind, Except.bind, Compiled.ofTree, Query.ofTree_statement]
  rfl

/-- What a text compiles to comes from the derivation of its tokens. -/
theorem Compiled.exists_derivation {text : String} {c : Compiled} (h : ofText text = .ok c) :
    ∃ children late, File (Token.scan text) (.node .file [.node .selectStmt children []] []) late ∧
      c = ⟨.node .file [.node .selectStmt children []] late, Query.ofStatement children,
        (Tree.node .file [.node .selectStmt children []] late).diagnostics⟩ := by
  obtain ⟨tree, late, hfile⟩ := exists_file (Token.scan text)
  obtain ⟨children, rfl, -⟩ := hfile.grammatical
  exact ⟨children, late, hfile, Except.ok.inj (h.symm.trans hfile.ofText_eq)⟩

/-- The parts of the query of a text are those of its tree. -/
theorem Compiled.parts_eq {text : String} {c : Compiled} (h : ofText text = .ok c) :
    Query.tableOf c.tree = .ok c.query.table ∧
      Query.conditionsOf c.tree = .ok c.query.conditions ∧
      Query.fieldsOf c.tree = .ok c.query.fields := by
  obtain ⟨children, late, -, rfl⟩ := exists_derivation h
  exact ⟨rfl, rfl, rfl⟩

/-- Every text can be compiled. -/
theorem Compiled.exists_ofText (text : String) : ∃ c, ofText text = .ok c := by
  obtain ⟨tree, late, h⟩ := exists_file (Token.scan text)
  obtain ⟨children, rfl, -⟩ := h.grammatical
  exact ⟨_, h.ofText_eq⟩

/-- **Any tokens make a tree, and any text compiles.** The tree has one statement and no other
child; its tokens are those it was made of, with messages added behind their own; and its messages
are those about the end of the query. -/
theorem Compiled.exists_tree_ofTokens :
    (∀ tokens : List Token, ∃ tree children,
      Tree.ofTrace (Trace.ofTokens tokens) = .ok tree ∧
      tree = .node .file [.node .selectStmt children []] (Trace.ofTokens tokens).unreported ∧
      List.Forall₂ Token.ExtendsTo tokens tree.leaves) ∧
    ∀ text : String, ∃ c, Compiled.ofText text = .ok c ∧
      Tree.ofTrace (Trace.ofTokens (Token.scan text)) = .ok c.tree := by
  refine ⟨fun tokens => ?_, fun text => ?_⟩
  · obtain ⟨tree, late, h⟩ := exists_file tokens
    obtain ⟨children, rfl, -⟩ := h.grammatical
    have hlate : (Trace.ofTokens tokens).unreported = late := by rw [h.ofTokens_eq]
    refine ⟨_, children, h.ofTrace_eq, by rw [hlate], ?_⟩
    exact h.extends
  · obtain ⟨tree, late, h⟩ := exists_file (Token.scan text)
    obtain ⟨children, rfl, -⟩ := h.grammatical
    exact ⟨_, h.ofText_eq, h.ofTrace_eq⟩

/-!
## Strict compilation

Nothing is wrong with a text exactly when the kinds of its tokens are a sentence
(`Derivation.File.diagnostics_eq_nil_iff`), and strict compilation accepts these texts and no others
(`Compiled.strict_iff_sentence`).
-/

/-- The tokens of a text carry no messages when their kinds are a sentence. -/
theorem Sentence.clean_scan {text : String} (h : Sentence (kindsOf (Token.scan text))) :
    Clean (Token.scan text) := fun t ht =>
  (Token.lexical_of_mem_scan ht).errors_eq_nil fun hk =>
    h.error_not_mem (List.mem_map.2 ⟨t, ht, hk⟩)

/-- Nothing is wrong with a text exactly when the kinds of its tokens are a sentence. -/
theorem Derivation.File.diagnostics_eq_nil_iff {text : String}
    (h : File (Token.scan text) (.node .file [.node .selectStmt children []] []) late) :
    (Tree.node .file [.node .selectStmt children []] late).diagnostics = [] ↔
      Sentence (kindsOf (Token.scan text)) := by
  obtain ⟨_, -, hg⟩ := h.grammatical
  obtain ⟨-, hc⟩ := (Tree.licensed_node ..).1 hg.unmarked
  obtain ⟨hstatement⟩ := h
  rw [Tree.diagnostics_eq_nil hc, Tree.leavesOf, Tree.leavesOf, List.append_nil]
  constructor
  · rintro ⟨hclean, rfl⟩
    exact hstatement.sentence rfl hclean
  · intro hs
    obtain ⟨hlate, hleaves⟩ := hstatement.of_sentence hs
    exact ⟨hleaves ▸ hs.clean_scan, hlate⟩

/-- Strict compilation returns what nothing is wrong with. -/
theorem Compiled.strict_eq_ok_iff {text : String} {c : Compiled} (h : ofText text = .ok c)
    (c' : Compiled) : strict text = .ok c' ↔ c' = c ∧ c.diagnostics = [] := by
  rw [strict, h]
  obtain ⟨tree, query, diagnostics⟩ := c
  cases diagnostics with
  | nil => exact ⟨fun h => by cases h; exact ⟨rfl, rfl⟩, fun h => by rw [h.1]; rfl⟩
  | cons first rest => exact ⟨nofun, nofun⟩

/-- **A text is accepted exactly when the kinds of its tokens are a sentence.** What is then
returned is what the text compiles to otherwise. -/
theorem Compiled.strict_iff_sentence (text : String) :
    ((∃ c, strict text = .ok c) ↔ Sentence (kindsOf (Token.scan text))) ∧
      ∃ c, ofText text = .ok c ∧
        (c.diagnostics = [] ↔ Sentence (kindsOf (Token.scan text))) ∧
        (strict text = .ok c ↔ Sentence (kindsOf (Token.scan text))) := by
  obtain ⟨tree, late, h⟩ := Derivation.exists_file (Token.scan text)
  obtain ⟨children, rfl, -⟩ := h.grammatical
  have hiff := h.diagnostics_eq_nil_iff
  have hstrict := strict_eq_ok_iff h.ofText_eq
  refine ⟨?_, _, h.ofText_eq, hiff, ?_⟩
  · simp [hstrict, hiff]
  · simp [hstrict, hiff]

end FeedQuery
