import FeedQuery.Proofs.Derivation

/-!
# Recording a derivation

A parse of tokens records the trace of the tree that they are derived as: `Recorder.record` says
what it is to record finished trees, and each rule of the grammar does so with the trees of its
derivation. A node that has started is one placeholder in the trace, behind which its children are
recorded (`Recorder.opened`); the mark of a node or of a finished tree is the number of events
before it, so that the kind of a node is written to its own placeholder (`leave_opened`) and a node
before a finished tree starts where that tree started (`enterBefore_record`).

`Derivation.File.ofTokens_eq` puts the rules together.
-/

namespace FeedQuery

/-- What is inserted behind the first part of a list stands between its two parts. -/
theorem insertIdx_append_length (l k : List α) (x : α) :
    (l ++ k).insertIdx l.length x = l ++ x :: k := by
  induction l with
  | nil => rfl
  | cons a l ih => simp [ih]

namespace Recorder

variable {r : Recorder} {t : Token} {ts rest : List Token} {late : List String}

/-- The parse after it has recorded the trees, with the tokens `rest` left, and with the messages
`late` about the end of the query. -/
def record (r : Recorder) (trees : List Tree) (rest : List Token) (late : List String) :
    Recorder :=
  ⟨r.taken ++ Tree.leavesOf trees, rest, r.events ++ Tree.eventsOf trees, r.unreported ++ late⟩

/-- The parse after a node has started. -/
def opened (r : Recorder) : Recorder := { r with events := r.events ++ [.enter placeholder] }

@[simp] theorem pending_record (trees : List Tree) : (r.record trees rest late).pending = rest :=
  rfl

@[simp] theorem pending_opened : r.opened.pending = r.pending := rfl

@[simp] theorem peek_eq (hr : r.pending = t :: ts) : r.peek = some t.kind := by
  simp [peek, hr]

/-- Recording trees in two goes. -/
@[simp] theorem record_record (us vs : List Tree) (ts : List Token) (late₁ late₂ : List String) :
    (r.record us ts late₁).record vs rest late₂ = r.record (us ++ vs) rest (late₁ ++ late₂) := by
  simp [record, Tree.leavesOf_append, Tree.eventsOf_append]

/-- Nothing is recorded when nothing happens. -/
theorem record_nil (hr : r.pending = ts) : r.record [] ts [] = r := by
  subst hr
  simp [record, Tree.leavesOf, Tree.eventsOf]

/-- A node starts at the end of the trace, where its mark points. -/
theorem enter_eq (r : Recorder) : r.enter = (⟨r.events.length⟩, r.opened) := rfl

/-- The next token is recorded as a leaf. -/
theorem advance_eq (hr : r.pending = t :: ts) : r.advance = r.record [.leaf t] ts [] := by
  simp [advance, hr, record, Tree.leavesOf, Tree.leaves, Tree.eventsOf, Tree.events]

/-- A message is recorded for the next token. -/
theorem complain_eq (hr : r.pending = t :: ts) (message : String) :
    r.complain message = r.record [] (t.withError message :: ts) [] := by
  simp [complain, hr, record, Tree.leavesOf, Tree.eventsOf]

/-- Without a token the message is one about the end. -/
theorem complain_eq_nil (hr : r.pending = []) (message : String) :
    r.complain message = r.record [] [] [message] := by
  simp [complain, hr, record, Tree.leavesOf, Tree.eventsOf]

/-- A node that ends is recorded with what has been recorded since it started. -/
theorem leave_opened (r : Recorder) (trees : List Tree) (ts : List Token) (late : List String)
    (kind : NodeKind) :
    (r.opened.record trees ts late).leave ⟨r.events.length⟩ kind =
      (⟨r.events.length⟩, r.record [.node kind trees []] ts late) := by
  simp [leave, opened, record, Tree.leavesOf, Tree.leaves, Tree.eventsOf, Tree.events]

/-- A node that starts before a finished tree has it as its first child. -/
theorem enterBefore_record (r : Recorder) (tree : Tree) (ts : List Token) (late : List String) :
    (r.record [tree] ts late).enterBefore ⟨r.events.length⟩ =
      (⟨r.events.length⟩, r.opened.record [tree] ts late) := by
  simp [enterBefore, opened, record, insertIdx_append_length]

end Recorder

namespace Derivation

open Grammar Recorder

variable {r : Recorder} {t : Token} {ts rest : List Token} {trees : List Tree} {tree : Tree}
  {late : List String} {kind : TokenKind} {message : String}

/-- The next token is not of a kind that no first token has. -/
theorem peek_ne (hr : r.pending = ts) (hk : ∀ t ∈ ts.head?, t.kind ≠ kind) :
    r.peek ≠ some kind := by
  cases ts with
  | nil => simp [peek, hr]
  | cons t ts => simpa [peek_eq hr] using hk

/-- A token that is out of place is recorded. -/
theorem Skip.complain_skip (h : Skip message ts trees rest late) (hr : r.pending = ts) :
    (r.complain message).skip = r.record trees rest late := by
  cases h with
  | clause hc => simp [complain_eq hr, skip, atClause, peek, Token.withError, hc]
  | @other t _ hc =>
    have hs := advance_eq (r := r.record [] (t.withError message :: rest) []) rfl
    simp [complain_eq hr, skip, atClause, peek, Token.withError, hc] at hs ⊢
    exact hs
  | ending => simp [complain_eq_nil hr, skip, atClause, peek, advance]

/-- An operand is recorded. -/
theorem Operand.operand_eq (h : Operand ts tree rest late) (hr : r.pending = ts) :
    operand r = (⟨r.events.length⟩, r.record [tree] rest late) := by
  have ho : r.opened.pending = ts := hr
  rw [operand, enter_eq]
  cases h with
  | name hk => simp [peek_eq ho, hk, advance_eq ho, leave_opened]
  | string hk => simp [peek_eq ho, hk, advance_eq ho, leave_opened]
  | broken hk h =>
    have hn := peek_ne ho fun t ht => (hk t ht).1
    have hs := peek_ne ho fun t ht => (hk t ht).2
    rw [← leave_opened, ← h.complain_skip ho]
    dsimp only
    split
    · contradiction
    · contradiction
    · rfl

/-- Operators are recorded: with the tree on their left recorded before, the tree that they make is
recorded in its place. -/
theorem Operators.operators_eq {left : Option TokenKind} {lhs : Tree} {late₀ : List String}
    {fuel : Nat} (h : Operators left lhs ts tree rest late) (hf : ts.length ≤ fuel) :
    operators left fuel ⟨r.events.length⟩ (r.record [lhs] ts late₀) =
      r.record [tree] rest (late₀ ++ late) := by
  induction h generalizing r fuel late₀ with
  | ending => cases fuel <;> simp [operators, peek]
  | stop ht => cases fuel <;> simp [operators, peek, ht]
  | @more left lhs first rhs tree op ts ts₁ ts₂ rest late₁ late₂ late₃ ht hfirst hrhs _ ih₁ ih₂ =>
    obtain _ | fuel := fuel
    · simp at hf
    have hts : ts.length ≤ fuel := Nat.le_of_succ_le_succ hf
    have h₁ := hfirst.length_le
    have h₂ := hrhs.length_le
    -- `q` is the parse with the new node started, and `lhs` and the operator recorded in it
    let q := r.opened.record [lhs, .leaf op] ts late₀
    have hadvance : (r.opened.record [lhs] (op :: ts) late₀).advance = q := by
      rw [advance_eq (pending_record _)]
      simp [q]
    have hoperand : operand q = (⟨q.events.length⟩, q.record [first] ts₁ late₁) :=
      hfirst.operand_eq rfl
    have hinner : operators (some op.kind) fuel ⟨q.events.length⟩ (q.record [first] ts₁ late₁) =
        q.record [rhs] ts₂ (late₁ ++ late₂) := ih₁ (by omega)
    have hleave : (q.record [rhs] ts₂ (late₁ ++ late₂)).leave ⟨r.events.length⟩ .exprBinary =
        (⟨r.events.length⟩, r.record [.node .exprBinary [lhs, .leaf op, rhs] []] ts₂
          (late₀ ++ (late₁ ++ late₂))) := by
      rw [← leave_opened]
      simp [q]
    have houter : operators left fuel ⟨r.events.length⟩
        (r.record [.node .exprBinary [lhs, .leaf op, rhs] []] ts₂ (late₀ ++ (late₁ ++ late₂))) =
        r.record [tree] rest (late₀ ++ (late₁ ++ late₂) ++ late₃) := ih₂ (by omega)
    simp [operators, peek, ht, enterBefore_record, hadvance, hoperand, hinner, hleave, houter]

/-- An expression is recorded. -/
theorem Expression.expression_eq (h : Expression ts tree rest late) (hr : r.pending = ts) :
    expression r = r.record [tree] rest late := by
  obtain ⟨hfirst, hops⟩ := h
  simp [expression, hfirst.operand_eq hr, hops.operators_eq (Nat.le_refl _)]

/-- A field is recorded. -/
theorem Field.field_eq (h : Field ts trees rest late) (hr : r.pending = ts) :
    field r = r.record trees rest late := by
  rw [field]
  cases h with
  | star hk => simp [peek_eq hr, hk, advance_eq hr]
  | comma hk => simp [peek_eq hr, hk, complain_eq hr]
  | expression hk h =>
    have hs := peek_ne hr fun t ht => (hk t ht).1
    have hc := peek_ne hr fun t ht => (hk t ht).2
    rw [← h.expression_eq hr]
    split
    · contradiction
    · contradiction
    · rfl

/-- A token that is rejected is recorded in an error node of its own. -/
theorem reject_eq (hr : r.pending = t :: ts) (message : String) :
    r.reject message =
      r.record [.node .errorTree [.leaf (t.withError message)] []] ts [] := by
  have ho : r.opened.pending = t :: ts := hr
  have hadvance := advance_eq (r := r.opened.record [] (t.withError message :: ts) []) rfl
  simp [reject, enter_eq, complain_eq ho, hadvance, leave_opened]

/-- The fields after the first one are recorded. -/
theorem MoreFields.moreFields_eq {fuel : Nat} (h : MoreFields ts trees rest late)
    (hr : r.pending = ts) (hf : ts.length ≤ fuel) :
    moreFields fuel r = r.record trees rest late := by
  induction h generalizing r fuel with
  | ending => cases fuel <;> simp [moreFields, peek, hr, record_nil]
  | clause hc => cases fuel <;> simp [moreFields, peek, atClause, hr, hc, record_nil]
  | @comma t ts ts₁ rest trees₁ trees₂ late₁ late₂ hk hfield h ih =>
    obtain _ | fuel := fuel
    · simp at hf
    have hts : ts.length ≤ fuel := Nat.le_of_succ_le_succ hf
    have h₁ := hfield.length_le
    have hfirst := hfield.field_eq (r := r.record [.leaf t] ts []) rfl
    have hts₁ : ts₁.length ≤ fuel := by omega
    have hrest := ih (r := r.record (.leaf t :: trees₁) ts₁ late₁) rfl hts₁
    simp [moreFields, peek_eq hr, atClause, at?, hk, TokenKind.startsClause, advance_eq hr, hfirst,
      hrest]
  | @missing t ts ts₁ rest trees₁ trees₂ late₁ late₂ hk hfield h ih =>
    obtain _ | fuel := fuel
    · simp at hf
    have hts : ts.length ≤ fuel := Nat.le_of_succ_le_succ hf
    have h₁ := hfield.length_le_of_startsField hk
    have hc := TokenKind.startsClause_of_startsField hk
    have hcomma : t.kind ≠ .comma := fun h => by simp [h, TokenKind.startsField] at hk
    have hfirst :=
      hfield.field_eq (r := r.record [] (t.withError expectedComma :: ts) []) rfl
    have hts₁ : ts₁.length ≤ fuel := by omega
    have hrest := ih (r := r.record trees₁ ts₁ late₁) rfl hts₁
    simp [moreFields, peek_eq hr, atClause, atField, at?, hc, hk, hcomma, complain_eq hr, hfirst,
      hrest]
  | @stray t ts rest trees late hc hk hs h ih =>
    obtain _ | fuel := fuel
    · simp at hf
    have hts : ts.length ≤ fuel := Nat.le_of_succ_le_succ hf
    have hrest :=
      ih (r := r.record [.node .errorTree [.leaf (t.withError expectedComma)] []] ts []) rfl hts
    simp [moreFields, peek_eq hr, atClause, atField, at?, hc, hk, hs, reject_eq hr, hrest]

/-- The fields are recorded. -/
theorem FieldList.fieldList_eq (h : FieldList ts tree rest late) (hr : r.pending = ts) :
    fieldList r = r.record [tree] rest late := by
  obtain ⟨hfield, hmore⟩ := h
  have ho : r.opened.pending = ts := hr
  simp [fieldList, enter_eq, hfield.field_eq ho, hmore.moreFields_eq (pending_record _)
    (Nat.le_refl _), leave_opened]

/-- What is expected, or what is there instead, is recorded. -/
theorem Expect.expect_eq (h : Expect kind message ts trees rest late) (hr : r.pending = ts) :
    r.expect kind message = r.record trees rest late := by
  rw [expect]
  cases h with
  | found hk => simp [at?, peek_eq hr, hk, advance_eq hr]
  | missing hk h =>
    have hk := peek_ne hr hk
    simp [at?, hk, h.complain_skip hr]

/-- The table is recorded. -/
theorem TableClause.fromClause_eq (h : TableClause ts trees rest late) (hr : r.pending = ts) :
    (if r.at? .kwFrom then fromClause r else r) = r.record trees rest late := by
  cases h with
  | absent hk =>
    have hk := peek_ne hr hk
    simp [at?, hk, record_nil hr]
  | @present t ts rest trees late hk h =>
    have ho : r.opened.pending = t :: ts := hr
    have hfrom : r.opened.expect .kwFrom expectedFrom = r.opened.record [.leaf t] ts [] :=
      Expect.expect_eq (.found hk) ho
    have htable := h.expect_eq (r := r.opened.record [.leaf t] ts []) rfl
    simp [at?, peek_eq hr, hk, fromClause, enter_eq, hfrom, htable, leave_opened]

/-- The condition is recorded. -/
theorem ConditionClause.whereClause_eq (h : ConditionClause ts trees rest late)
    (hr : r.pending = ts) :
    (if r.at? .kwWhere then whereClause r else r) = r.record trees rest late := by
  cases h with
  | absent hk =>
    have hk := peek_ne hr hk
    simp [at?, hk, record_nil hr]
  | @present t ts rest tree late hk h =>
    have ho : r.opened.pending = t :: ts := hr
    have hwhere : r.opened.expect .kwWhere expectedWhere = r.opened.record [.leaf t] ts [] :=
      Expect.expect_eq (.found hk) ho
    have hexpr := h.expression_eq (r := r.opened.record [.leaf t] ts []) rfl
    simp [at?, peek_eq hr, hk, whereClause, enter_eq, hwhere, hexpr, leave_opened]

/-- The tokens that are left over are recorded. -/
theorem leftovers_eq (hr : r.pending = ts) :
    leftovers ts.length r = r.record (leftoverTrees ts) [] [] := by
  induction ts generalizing r with
  | nil => simp [leftovers, leftoverTrees, record_nil hr]
  | cons t ts ih =>
    have hrest :=
      ih (r := r.record [.node .errorTree [.leaf (t.withError unexpectedToken)] []] ts []) rfl
    simp [leftovers, peek_eq hr, reject_eq hr, hrest, leftoverTrees]

/-- A statement is recorded. -/
theorem Statement.statement_eq (h : Statement ts tree late) (hr : r.pending = ts) :
    statement r = r.record [tree] [] late := by
  obtain ⟨hselect, hfields, htable, hcondition⟩ := h
  have ho : r.opened.pending = ts := hr
  simp [statement, enter_eq, hselect.expect_eq ho, hfields.fieldList_eq (pending_record _),
    htable.fromClause_eq (pending_record _), hcondition.whereClause_eq (pending_record _),
    leftovers_eq (pending_record _), leave_opened]

/-- A query is recorded. -/
theorem File.file_eq (h : File ts tree late) (hr : r.pending = ts) :
    file r = r.record [tree] [] late := by
  obtain ⟨h⟩ := h
  have ho : r.opened.pending = ts := hr
  simp [file, enter_eq, h.statement_eq ho, leave_opened]

/-- **The parse of tokens is the trace of the tree that they are derived as.** -/
theorem File.ofTokens_eq (h : File ts tree late) :
    Trace.ofTokens ts = ⟨tree.leaves, tree.events, late⟩ := by
  rw [Trace.ofTokens, h.file_eq (r := .ofTokens ts) rfl]
  simp [Recorder.ofTokens, record, toTrace, Tree.leavesOf, Tree.eventsOf]

end Derivation

end FeedQuery
