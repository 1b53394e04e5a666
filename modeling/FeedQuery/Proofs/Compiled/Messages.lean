import FeedQuery.Proofs.Compiled
import FeedQuery.Proofs.Derivation.Clauses
import FeedQuery.Proofs.Token.Cover

/-!
# The messages about a text

A parse adds few messages to each token and one about the end at most, and what is wrong with a text
is listed in the order of its tokens (`Compiled.messages_inOrder`).
-/

namespace FeedQuery

/-!
## How many messages a parse adds

Mistakes do not cascade. A rule adds one message at most to each token that it takes, and it leaves
a token with a message in place only where a clause starts; so what has to be counted are the
messages that rules one after the other add to the word of a clause (`Derivation.Adds`). The
operators behind an operand, and the fields behind a field, add none to the token that they start
from, which is why a message is not repeated at each level of an expression. In a whole statement
the word of a clause gets two messages at most, and any other token one
(`Derivation.Statement.forall₂_within`).

About the end of the query there is one message at most, since after it there is nothing left to
read (`Derivation.EndsWith`), except that without any token both the first word and a field are
missing.
-/

/-- The token with more messages. -/
def Token.withErrors (t : Token) (messages : List String) : Token :=
  { t with errors := t.errors ++ messages }

/-- `t'` is `t` with at most `n` further messages. -/
def Token.Gains (n : Nat) (t t' : Token) : Prop :=
  ∃ messages, messages.length ≤ n ∧ t' = t.withErrors messages

/-- A token with no further message is within every bound. -/
theorem Token.Gains.refl (t : Token) (n : Nat) : t.Gains n t :=
  ⟨[], Nat.zero_le n, by rw [withErrors, List.append_nil]⟩

/-- A message is one further message. -/
theorem Token.gains_withError (t : Token) (message : String) : t.Gains 1 (t.withError message) :=
  ⟨[message], Nat.le_refl 1, rfl⟩

/-- Messages do not change the kind of a token. -/
theorem Token.Gains.kind {t t' : Token} (h : t.Gains n t') : t'.kind = t.kind := by
  obtain ⟨messages, -, rfl⟩ := h
  rfl

/-- What is within a bound is within a greater one. -/
theorem Token.Gains.mono {t t' : Token} (h : t.Gains n t') (hn : n ≤ n') : t.Gains n' t' := by
  obtain ⟨messages, hlength, rfl⟩ := h
  exact ⟨messages, Nat.le_trans hlength hn, rfl⟩

/-- Further messages add up. -/
theorem Token.Gains.trans {t u v : Token} (h : t.Gains m u) (h' : u.Gains n v) :
    t.Gains (m + n) v := by
  obtain ⟨messages, hm, rfl⟩ := h
  obtain ⟨messages', hn, rfl⟩ := h'
  refine ⟨messages ++ messages', ?_, by simp [withErrors]⟩
  rw [List.length_append]
  exact Nat.add_le_add hm hn

namespace Derivation

open Grammar FeedQuery.Tree

/-- A rule that takes `us` of the tokens `ts` and leaves `rest` adds at most one message to each of
those that it takes, none of which starts a clause. Where a clause starts it adds at most `n`
messages if it has taken nothing, and at most `k` otherwise. -/
inductive Adds (k : Nat) : Nat → List Token → List Token → List Token → Prop
  | stay {n : Nat} {ts : List Token} : Adds k n ts [] ts
  | note {n : Nat} {t t' : Token} {ts : List Token} : t.kind.startsClause = true →
      t.Gains n t' → Adds k n (t :: ts) [] (t' :: ts)
  | take {n : Nat} {t t' : Token} {ts us rest : List Token} : t.kind.startsClause = false →
      t.Gains 1 t' → Adds k k ts us rest → Adds k n (t :: ts) (t' :: us) rest

section
variable {k k' n n' : Nat} {ts us vs ts₁ rest : List Token}

/-- What adds few messages adds no more than greater bounds allow. -/
theorem Adds.mono (h : Adds k n ts us rest) (hk : k ≤ k') (hn : n ≤ n') :
    Adds k' n' ts us rest := by
  induction h generalizing n' with
  | stay => exact .stay
  | note ht hgains => exact .note ht (hgains.mono hn)
  | take ht hgains _ ih => exact .take ht hgains (ih hk)

/-- One rule after the other: what they add to the token between them is added up. -/
theorem Adds.append (h : Adds k n ts us ts₁) (h' : Adds k' n' ts₁ vs rest) (hk : k + n' ≤ k') :
    Adds k' (n + n') ts (us ++ vs) rest := by
  induction h with
  | @stay n ts => exact h'.mono (Nat.le_refl k') (Nat.le_add_left n' n)
  | @note n t t' ts ht hgains =>
    cases h' with
    | stay => exact .note ht (hgains.mono (Nat.le_add_right n n'))
    | note _ hgains' => exact .note ht (hgains.trans hgains')
    | take ht' => rw [hgains.kind, ht] at ht'; cases ht'
  | take ht hgains _ ih => exact .take ht hgains ((ih h').mono (Nat.le_refl k') hk)

end

/-! ### The rules of an expression -/

/-- Skipping adds one message, to the token that is skipped or to the word of a clause that is left.
-/
theorem Skip.adds (h : Skip message ts trees rest late) : Adds 0 1 ts (leavesOf trees) rest := by
  cases h with
  | clause ht => exact .note ht (Token.gains_withError ..)
  | other ht => exact .take ht (Token.gains_withError ..) .stay
  | ending => exact .stay

/-- An operand adds one message at most, and only where it is missing. -/
theorem Operand.adds (h : Operand ts tree rest late) : Adds 0 1 ts tree.leaves rest := by
  cases h with
  | name hk | string hk => exact .take (by rw [hk]; rfl) (.refl _ 1) .stay
  | broken _ h => exact h.adds

/-- Operators stop at a clause without a message. -/
theorem Operators.adds (h : Operators left lhs ts tree rest late) :
    ∃ us, tree.leaves = lhs.leaves ++ us ∧ Adds 1 0 ts us rest := by
  induction h with
  | ending | stop => exact ⟨[], (List.append_nil _).symm, .stay⟩
  | @more _ lhs first rhs tree op ts ts₁ ts₂ rest _ _ _ hop hfirst _ _ ih₁ ih₂ =>
    obtain ⟨us, hus, h₁⟩ := ih₁
    obtain ⟨vs, hvs, h₂⟩ := ih₂
    have hrhs : Adds 1 1 ts rhs.leaves ts₂ := hus ▸ hfirst.adds.append h₁ (Nat.zero_le 1)
    have hrest : Adds 1 1 ts (rhs.leaves ++ vs) rest := hrhs.append h₂ (Nat.le_refl 1)
    refine ⟨op :: (rhs.leaves ++ vs), by simp [hvs, leaves, leavesOf], ?_⟩
    exact .take (startsClause_of_bindsTighter hop) (.refl op 1) hrest

/-- An expression adds one message at most to each token. -/
theorem Expression.adds (h : Expression ts tree rest late) : Adds 1 1 ts tree.leaves rest := by
  obtain ⟨hfirst, hops⟩ := h
  obtain ⟨us, hus, h⟩ := hops.adds
  rw [hus]
  exact hfirst.adds.append h (Nat.zero_le 1)

/-! ### The rules of the fields -/

/-- A field that starts with a name, a literal or a star adds nothing to it. -/
theorem Field.adds_of_startsField (h : Field (t :: ts) trees rest late)
    (ht : t.kind.startsField = true) :
    ∃ us, leavesOf trees = t :: us ∧ Adds 1 1 ts us rest := by
  cases h with
  | star => exact ⟨[], rfl, .stay⟩
  | comma hk => rw [hk] at ht; cases ht
  | expression hne h =>
    obtain ⟨hfirst, hops⟩ := h
    obtain ⟨us, hus, h⟩ := hops.adds
    rw [leavesOf_singleton, hus]
    cases hfirst with
    | name | string => exact ⟨us, rfl, h.mono (Nat.le_refl 1) (Nat.zero_le 1)⟩
    | broken hbroken =>
      have ⟨hname, hstring⟩ := hbroken t rfl
      have ⟨hstar, _⟩ := hne t rfl
      cases hk : t.kind <;> simp_all [TokenKind.startsField]

/-- What the fields after the first one add, where `rest` is left of the tokens `ts`: nothing to the
token that they start from if it starts a clause or is a comma. -/
structure AddsFields (ts us rest : List Token) : Prop where
  adds : Adds 1 0 ts us rest
  comma : ∀ t ts', ts = t :: ts' → t.kind = .comma → ∃ us', us = t :: us' ∧ Adds 1 1 ts' us' rest

/-- A field and those after it: a comma in place of the field has one message when it is taken. -/
theorem Field.adds_append {trees₁ trees₂ : List Tree} (h : Field ts trees₁ ts₁ late)
    (h' : AddsFields ts₁ (leavesOf trees₂) rest) :
    Adds 1 1 ts (leavesOf (trees₁ ++ trees₂)) rest := by
  rw [leavesOf_append]
  cases h with
  | star hk =>
    exact .take (by rw [hk]; rfl) (.refl _ 1) (h'.adds.mono (Nat.le_refl 1) (Nat.zero_le 1))
  | comma hk =>
    obtain ⟨us, hus, h⟩ := h'.comma _ _ rfl hk
    rw [hus]
    exact .take (by rw [hk]; rfl) (Token.gains_withError ..) h
  | expression _ h =>
    rw [leavesOf_singleton]
    exact h.adds.append h'.adds (Nat.le_refl 1)

/-- The fields after the first one add one message at most to each token. -/
theorem MoreFields.adds (h : MoreFields ts trees rest late) :
    AddsFields ts (leavesOf trees) rest := by
  induction h with
  | ending => exact ⟨.stay, nofun⟩
  | clause ht =>
    refine ⟨.stay, fun t ts' hts hk => ?_⟩
    obtain ⟨rfl, -⟩ := List.cons.inj hts
    rw [hk] at ht
    cases ht
  | @comma t ts ts₁ rest trees₁ trees₂ late₁ late₂ hk hfield _ ih =>
    have hall := hfield.adds_append ih
    refine ⟨.take (by rw [hk]; rfl) (.refl t 1) hall, fun t' ts' hts _ => ?_⟩
    obtain ⟨rfl, rfl⟩ := List.cons.inj hts
    exact ⟨_, rfl, hall⟩
  | @missing t ts ts₁ rest trees₁ trees₂ late₁ late₂ ht hfield _ ih =>
    obtain ⟨us, hus, h⟩ := hfield.adds_of_startsField ht
    refine ⟨?_, fun t' ts' hts hk => ?_⟩
    · rw [leavesOf_append, hus]
      exact .take (TokenKind.startsClause_of_startsField ht) (t.gains_withError _)
        (h.append ih.adds (Nat.le_refl 1))
    · obtain ⟨rfl, -⟩ := List.cons.inj hts
      rw [hk] at ht
      cases ht
  | @stray t ts rest trees late hclause hne _ _ ih =>
    refine ⟨.take hclause (t.gains_withError _) ?_, fun t' ts' hts hk => ?_⟩
    · exact ih.adds.mono (Nat.le_refl 1) (Nat.zero_le 1)
    · obtain ⟨rfl, -⟩ := List.cons.inj hts
      exact absurd hk hne

/-- The fields add one message at most to each token. -/
theorem FieldList.adds (h : FieldList ts tree rest late) : Adds 1 1 ts tree.leaves rest := by
  obtain ⟨hfield, hmore⟩ := h
  exact hfield.adds_append hmore.adds

/-- A token in place of an expected one has one message. -/
theorem Expect.adds (h : Expect kind message ts trees rest late)
    (hkind : kind.startsClause = false) : Adds 0 1 ts (leavesOf trees) rest := by
  cases h with
  | found hk => exact .take (hk ▸ hkind) (.refl _ 1) .stay
  | missing _ h => exact h.adds

/-! ### The clauses -/

/-- The most messages that a parse adds to a token. -/
def mostMessages (kind : TokenKind) : Nat := if kind = .kwFrom ∨ kind = .kwWhere then 2 else 1

/-- A parse may add a message to any token. -/
theorem one_le_mostMessages (kind : TokenKind) : 1 ≤ mostMessages kind := by
  unfold mostMessages
  split <;> decide

/-- The word of a clause may get two messages. -/
theorem mostMessages_of_startsClause {kind : TokenKind} (h : kind.startsClause = true) :
    mostMessages kind = 2 := by
  cases kind <;> first | rfl | cases h

/-- The tokens `us` are the tokens `ts`, each with the most messages that a parse adds or fewer. -/
abbrev Within (ts us : List Token) : Prop :=
  List.Forall₂ (fun t u => t.Gains (mostMessages t.kind) u) ts us

section
variable {k n : Nat} {ts us ws rest : List Token}

/-- What rules add that take no word of a clause is within the bounds when what is added later is,
also to the token that they have left a message on. -/
theorem Adds.within (h : Adds 1 n ts us rest) (hn : 1 ≤ n)
    (hrest : ∀ {bs}, Adds 1 n bs [] rest → Within bs ws) : Within ts (us ++ ws) := by
  induction h with
  | stay => exact hrest .stay
  | note ht hgains => exact hrest (.note ht hgains)
  | @take n t t' _ _ _ _ hgains _ ih =>
    refine .cons (hgains.mono (one_le_mostMessages _)) (ih (Nat.le_refl 1) fun hbs => ?_)
    exact hrest (hbs.mono (Nat.le_refl 1) hn)

/-- A word of a clause with two messages at most can be taken as it is. -/
theorem Adds.within_take (h : Adds k n bs [] (t :: ts)) (hn : n ≤ 2) (hts : Within ts us) :
    Within bs (t :: us) := by
  cases h with
  | stay => exact .cons (.refl ..) hts
  | note hclause hgains =>
    exact .cons (hgains.mono (mostMessages_of_startsClause hclause ▸ hn)) hts

/-- A token that is left over gets one message more. -/
theorem Adds.within_leftoverTrees (h : Adds k 1 bs [] ts) :
    Within bs (leavesOf (leftoverTrees ts)) := by
  have hall (ts : List Token) : Within ts (ts.map (·.withError unexpectedToken)) :=
    List.forall₂_map_right_iff.2 <| List.forall₂_same.2 fun t _ =>
      (t.gains_withError _).mono (one_le_mostMessages _)
  rw [leavesOf_leftoverTrees]
  cases h with
  | stay => exact hall _
  | note hclause hgains =>
    refine .cons ?_ (hall _)
    rw [mostMessages_of_startsClause hclause]
    exact hgains.trans (Token.gains_withError ..)

end

/-- The condition and what is left over, where the first token may come with one message, or with
two if it is the word of the condition. -/
theorem ConditionClause.within (h : ConditionClause ts trees rest late)
    (hbs : Adds k n bs [] ts) (hn : n ≤ 1 ∨ n ≤ 2 ∧ ∀ t ∈ ts.head?, t.kind = .kwWhere) :
    Within bs (leavesOf trees ++ leavesOf (leftoverTrees rest)) := by
  cases h with
  | absent hne =>
    obtain hn | ⟨-, hwhere⟩ := hn
    · exact (hbs.mono (Nat.le_refl k) hn).within_leftoverTrees
    · cases ts with
      | nil =>
        cases hbs
        exact .nil
      | cons t ts => exact absurd (hwhere t rfl) (hne t rfl)
  | present hk h =>
    rw [leavesOf_singleton, leaves, leavesOf, leaves, leavesOf_singleton]
    refine hbs.within_take (by omega) ?_
    exact h.adds.within (Nat.le_refl 1) Adds.within_leftoverTrees

/-- The table, the condition and what is left over, where the word of a clause that comes first may
come with two messages. -/
theorem TableClause.within {trees' : List Tree} (h : TableClause ts trees ts₁ late)
    (h' : ConditionClause ts₁ trees' rest late') (hbs : Adds k 2 bs [] ts)
    (hts : ∀ t ∈ ts.head?, t.kind.startsClause = true) :
    Within bs (leavesOf trees ++ (leavesOf trees' ++ leavesOf (leftoverTrees rest))) := by
  cases h with
  | absent hne =>
    refine h'.within hbs (.inr ⟨Nat.le_refl 2, fun t ht => ?_⟩)
    have hclause := hts t ht
    have hfrom := hne t ht
    cases hk : t.kind <;> simp_all [TokenKind.startsClause]
  | present hk h =>
    rw [leavesOf_singleton, leaves, leavesOf, leaves]
    refine hbs.within_take (Nat.le_refl 2) ?_
    have hadds := (h.adds rfl).mono (Nat.zero_le 1) (Nat.le_refl 1)
    exact hadds.within (Nat.le_refl 1) fun hbs => h'.within hbs (.inl (Nat.le_refl 1))

/-- A statement adds two messages at most to the word of a clause, and one to any other token. -/
theorem Statement.forall₂_within (h : Statement ts tree late) : Within ts tree.leaves := by
  obtain ⟨hselect, ⟨hfield, hmore⟩, htable, hcondition⟩ := h
  have hadds := (hselect.adds rfl).append (FieldList.mk hfield hmore).adds (Nat.le_refl 1)
  have hall := hadds.within (Nat.le_succ 1) fun hbs =>
    htable.within hcondition hbs hmore.passes.2
  simpa [leaves, leavesOf, leavesOf_append] using hall

/-! ### The end of the query -/

/-- There is a message about the end only if nothing is left, and then one. -/
def EndsWith (rest : List Token) (late : List String) : Prop :=
  late = [] ∨ rest = [] ∧ late.length = 1

/-- There is one message about the end at most. -/
theorem EndsWith.length_le (h : EndsWith rest late) : late.length ≤ 1 := by
  obtain rfl | ⟨-, h⟩ := h
  · exact Nat.zero_le 1
  · exact Nat.le_of_eq h

/-- One rule after the other, where the second one says nothing at the end. -/
theorem EndsWith.append (h : EndsWith ts₁ late₁) (h' : EndsWith rest late₂)
    (hend : ts₁ = [] → rest = [] ∧ late₂ = []) : EndsWith rest (late₁ ++ late₂) := by
  obtain rfl | ⟨hts₁, hlength⟩ := h
  · exact h'
  · obtain ⟨hrest, rfl⟩ := hend hts₁
    exact .inr ⟨hrest, by rwa [List.append_nil]⟩

/-- Skipping reports the end only where it is reached. -/
theorem Skip.endsWith (h : Skip message ts trees rest late) : EndsWith rest late := by
  cases h with
  | clause | other => exact .inl rfl
  | ending => exact .inr ⟨rfl, rfl⟩

/-- An operand is missing at the end only where it is reached. -/
theorem Operand.endsWith (h : Operand ts tree rest late) : EndsWith rest late := by
  cases h with
  | name | string => exact .inl rfl
  | broken _ h => exact h.endsWith

/-- Without a token there is no operator, and nothing is missing. -/
theorem Operators.of_nil (h : Operators left lhs ts tree rest late) (hts : ts = []) :
    rest = [] ∧ late = [] := by
  cases h with
  | ending => exact ⟨rfl, rfl⟩
  | stop | more => cases hts

/-- Only the last operand of an expression can be missing at the end. -/
theorem Operators.endsWith (h : Operators left lhs ts tree rest late) : EndsWith rest late := by
  induction h with
  | ending | stop => exact .inl rfl
  | more _ hfirst hrhs h ih₁ ih₂ =>
    exact (hfirst.endsWith.append ih₁ hrhs.of_nil).append ih₂ h.of_nil

/-- An expression has one message about the end at most. -/
theorem Expression.endsWith (h : Expression ts tree rest late) : EndsWith rest late := by
  obtain ⟨hfirst, hops⟩ := h
  exact hfirst.endsWith.append hops.endsWith hops.of_nil

/-- A field has one message about the end at most. -/
theorem Field.endsWith (h : Field ts trees rest late) : EndsWith rest late := by
  cases h with
  | star | comma => exact .inl rfl
  | expression _ h => exact h.endsWith

/-- Without a token there are no more fields, and nothing is missing. -/
theorem MoreFields.of_nil (h : MoreFields ts trees rest late) (hts : ts = []) :
    rest = [] ∧ late = [] := by
  cases h with
  | ending => exact ⟨rfl, rfl⟩
  | clause | comma | missing | stray => cases hts

/-- Only the last field can be missing at the end. -/
theorem MoreFields.endsWith (h : MoreFields ts trees rest late) : EndsWith rest late := by
  induction h with
  | ending | clause => exact .inl rfl
  | comma _ hfield hmore ih | missing _ hfield hmore ih =>
    exact hfield.endsWith.append ih hmore.of_nil
  | stray _ _ _ _ ih => exact ih

/-- The fields have one message about the end at most. -/
theorem FieldList.endsWith (h : FieldList ts tree rest late) : EndsWith rest late := by
  obtain ⟨hfield, hmore⟩ := h
  exact hfield.endsWith.append hmore.endsWith hmore.of_nil

/-- An expected token is missing at the end only where it is reached. -/
theorem Expect.endsWith (h : Expect kind message ts trees rest late) : EndsWith rest late := by
  cases h with
  | found => exact .inl rfl
  | missing _ h => exact h.endsWith

/-- Where there is a token, its absence is not reported. -/
theorem Expect.late_eq_nil (h : Expect kind message ts trees rest late) (hts : ts ≠ []) :
    late = [] := by
  cases h with
  | found => rfl
  | missing _ h =>
    cases h with
    | clause | other => rfl
    | ending => exact absurd rfl hts

/-- The clause of the table has one message about the end at most, and none without a token. -/
theorem TableClause.endsWith (h : TableClause ts trees rest late) :
    EndsWith rest late ∧ (ts = [] → rest = [] ∧ late = []) := by
  cases h with
  | absent => exact ⟨.inl rfl, fun hts => ⟨hts, rfl⟩⟩
  | present _ h => exact ⟨h.endsWith, nofun⟩

/-- The clause of the condition has one message about the end at most, and none without a token. -/
theorem ConditionClause.endsWith (h : ConditionClause ts trees rest late) :
    EndsWith rest late ∧ (ts = [] → rest = [] ∧ late = []) := by
  cases h with
  | absent => exact ⟨.inl rfl, fun hts => ⟨hts, rfl⟩⟩
  | present _ h => exact ⟨h.endsWith, nofun⟩

/-- A statement with a token has one message at most about its end. -/
theorem Statement.length_late_le (h : Statement ts tree late) (hts : ts ≠ []) :
    late.length ≤ 1 := by
  obtain ⟨hselect, hfields, htable, hcondition⟩ := h
  obtain rfl := hselect.late_eq_nil hts
  obtain ⟨htable, htable'⟩ := htable.endsWith
  obtain ⟨hcondition, hcondition'⟩ := hcondition.endsWith
  exact ((hfields.endsWith.append htable htable').append hcondition hcondition').length_le

end Derivation


/-!
## The messages in order

What is wrong with a text is listed token by token: what was wrong with a token on its own, then
what the parse added to it, of which there is little (`Derivation.Statement.forall₂_within`). The
messages about the end of the query come last, and there is one of them at most, unless the text has
no token at all (`Compiled.messages_inOrder`).
-/

open FeedQuery.Derivation

/-- The messages that a parse has added, token by token. -/
theorem Derivation.exists_added {ts us : List Token} (h : Within ts us) :
    ∃ added, List.Forall₂ (fun t messages => messages.length ≤ mostMessages t.kind) ts added ∧
      us = List.zipWith Token.withErrors ts added := by
  induction h with
  | nil => exact ⟨[], .nil, rfl⟩
  | cons ht _ ih =>
    obtain ⟨messages, hlength, rfl⟩ := ht
    obtain ⟨added, hadded, rfl⟩ := ih
    exact ⟨messages :: added, .cons hlength hadded, rfl⟩

/-- Messages leave the places of tokens alone. -/
theorem Token.map_span_withErrors {ts : List Token} {added : List (List String)}
    (h : ts.length ≤ added.length) :
    (List.zipWith withErrors ts added).map (·.span) = ts.map (·.span) := by
  rw [← List.map_uncurry_zip_eq_zipWith, List.map_map]
  calc (ts.zip added).map ((·.span) ∘ Function.uncurry withErrors)
      = ((ts.zip added).map Prod.fst).map (·.span) := by rw [List.map_map]; rfl
    _ = ts.map (·.span) := by rw [List.map_fst_zip h]

/-- The places of the messages that tokens carry are in the order of the tokens. -/
theorem Tree.pairwise_start_tokenDiagnostics {ts : List Token}
    (h : (ts.map (·.span)).Pairwise fun s s' => s.start ≤ s'.start) :
    ((ts.flatMap tokenDiagnostics).filterMap (·.span)).Pairwise
      fun s s' => s.start ≤ s'.start := by
  have hspans (t : Token) :
      (tokenDiagnostics t).filterMap (·.span) = List.replicate t.errors.length t.span := by
    simp [tokenDiagnostics, List.filterMap_map]
  rw [List.filterMap_flatMap, List.pairwise_flatMap]
  refine ⟨fun t _ => ?_, (List.pairwise_map.1 h).imp fun htu s hs s' hs' => ?_⟩
  · rw [hspans]
    exact List.pairwise_replicate.2 (.inr (Nat.le_refl _))
  · rw [hspans] at hs hs'
    rw [List.eq_of_mem_replicate hs, List.eq_of_mem_replicate hs']
    exact htu

/-- **Mistakes do not cascade, and they are listed in the order of the text.** A parse adds two
messages at most to a word that starts a clause, one at most to any other token, and one at most
about the end of the query, where it adds two if there is no token. What is wrong with a text is
listed token by token, each with its own message first and those of the parse after it, all at its
place; what is said of the end of the query has no place and comes last. -/
theorem Compiled.messages_inOrder :
    (∀ tokens : List Token,
      List.Forall₂ (fun t t' =>
        t.Gains (if t.kind = .kwFrom ∨ t.kind = .kwWhere then 2 else 1) t')
        tokens (Trace.ofTokens tokens).tokens ∧
      (tokens ≠ [] → (Trace.ofTokens tokens).unreported.length ≤ 1) ∧
      (tokens = [] → (Trace.ofTokens tokens).unreported.length = 2)) ∧
    ∀ text : String, ∃ c added, ofText text = .ok c ∧
      added.length = (Token.scan text).length ∧
      (Trace.ofText text).tokens = List.zipWith Token.withErrors (Token.scan text) added ∧
      c.diagnostics =
        ((Token.scan text).zip added).flatMap (fun (t, messages) =>
          (t.errors ++ messages).map (Diagnostic.mk · (some t.span))) ++
        (Trace.ofText text).unreported.map (Diagnostic.mk · none) ∧
      (c.diagnostics.filterMap (·.span)).Pairwise fun s s' => s.start ≤ s'.start := by
  refine ⟨fun tokens => ?_, fun text => ?_⟩
  · obtain ⟨tree, late, h⟩ := exists_file tokens
    have htrace := h.ofTokens_eq
    obtain ⟨h⟩ := h
    rw [Tree.leaves, Tree.leavesOf_singleton] at htrace
    refine ⟨?_, ?_, ?_⟩
    · rw [htrace]
      exact h.forall₂_within
    · rw [htrace]
      exact h.length_late_le
    · rintro rfl
      rfl
  · obtain ⟨c, hc⟩ := exists_ofText text
    obtain ⟨children, late, h, rfl⟩ := exists_derivation hc
    have htrace : Trace.ofText text = _ := h.ofTokens_eq
    obtain ⟨_, -, hg⟩ := h.grammatical
    obtain ⟨-, hunmarked⟩ := (Tree.licensed_node ..).1 hg.unmarked
    obtain ⟨h⟩ := h
    obtain ⟨added, hadded, hleaves⟩ := exists_added h.forall₂_within
    have hdiagnostics : (Tree.node .file [.node .selectStmt children []] late).diagnostics =
        (List.zipWith Token.withErrors (Token.scan text) added).flatMap Tree.tokenDiagnostics ++
          late.map (Diagnostic.mk · none) := by
      rw [Tree.diagnostics, Tree.nodeErrors_node hunmarked, Tree.leaves, Tree.leavesOf_singleton,
        hleaves]
    rw [htrace]
    refine ⟨_, added, hc, hadded.length_eq.symm, ?_, ?_, ?_⟩
    · rw [Tree.leaves, Tree.leavesOf_singleton, hleaves]
    · rw [hdiagnostics, ← List.map_uncurry_zip_eq_zipWith, List.flatMap_map]
      rfl
    · have hends : (late.map (Diagnostic.mk · none)).filterMap (·.span) = [] := by simp
      rw [hdiagnostics, List.filterMap_append, hends, List.append_nil]
      refine Tree.pairwise_start_tokenDiagnostics ?_
      rw [Token.map_span_withErrors (Nat.le_of_eq hadded.length_eq), List.pairwise_map]
      exact (Scan.tokens_tiles 0 text.toList).pairwise_start

example : (Trace.ofText "FROM posts WHERE FROM likes").tokens.map (·.errors) =
    [["expected SELECT", "expected an expression"], [], [],
      ["expected an expression", "unexpected token"], ["unexpected token"]] := by
  decide +kernel

end FeedQuery
