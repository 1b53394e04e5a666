import FeedQuery.Proofs.Compiled
import FeedQuery.Proofs.Token.Scan

/-!
# Printed queries

Every query that a text compiles to can be printed (`Derivation.File.printable`), and a printed
query is read as the tokens that it was written with (`Query.lexemes_print`).
-/

namespace FeedQuery

/-!
## Printable queries

A query is printable (`Query.Printable`) when each part of it can be written as a token: the table
as an identifier, and fields, keys and values as literals. Every query that a text compiles to is
printable (`Derivation.File.printable`), because what a tree says comes from tokens of the text.
-/

/-! ### What tokens say -/

/-- A text that can stand between quotes. -/
def IsContent (s : String) : Prop := s ≠ "" ∧ Scan.quoteMark ∉ s.toList

instance : DecidablePred IsContent := fun _ => inferInstanceAs (Decidable (_ ∧ _))

/-- A text that is read as an identifier. -/
def IsName (s : String) : Prop := Scan.IsWord s.toList ∧ TokenKind.keyword? s = none

instance : DecidablePred IsName := fun _ => inferInstanceAs (Decidable (_ ∧ _))

/-- A token of a text, possibly with further messages. -/
def Token.Written (t : Token) : Prop := ∃ t₀ : Token, t₀.Lexical ∧ t₀.ExtendsTo t

/-- The tokens of the tree of a text are written there. -/
theorem Derivation.File.written {text : String} (h : File (Token.scan text) tree late) :
    ∀ t ∈ tree.leaves, t.Written := by
  intro t ht
  obtain ⟨t₀, ht₀, hext⟩ := ExtendTo.exists_of_mem h.extends ht
  exact ⟨t₀, Token.lexical_of_mem_scan ht₀, hext⟩

/-- A name can stand between quotes. -/
theorem IsName.isContent {s : String} (h : IsName s) : IsContent s := by
  obtain ⟨hword, -⟩ := h
  refine ⟨?_, fun hq => ?_⟩
  · rintro rfl
    cases hword
  · exact absurd (hword.all _ hq) (by decide)

/-- An identifier is a name. -/
theorem Token.Written.isName {t : Token} (h : t.Written) (hk : t.kind = .identifier) :
    IsName t.text := by
  obtain ⟨t₀, hlex, hext⟩ := h
  rw [hext.kind] at hk
  rw [hext.text]
  cases hlex with
  | @word cs _ hword =>
    refine ⟨by simpa using hword, ?_⟩
    cases hkey : TokenKind.keyword? (String.ofList cs) with
    | none => rfl
    | some kind =>
      have hkind : kind = .identifier := by simpa [hkey] using hk
      exact absurd (TokenKind.isKeyword_of_keyword? hkey) (by simp [hkind, TokenKind.isKeyword])
  | literal | comma | star | equals | error => cases hk

/-- An equals sign is written in one way. -/
theorem Token.Written.text_eq {t : Token} (h : t.Written) (hk : t.kind = .equals) :
    t.text = "=" := by
  obtain ⟨t₀, hlex, hext⟩ := h
  rw [hext.kind] at hk
  rw [hext.text]
  cases hlex with
  | equals => rfl
  | word => exact absurd hk (TokenKind.keyword?_getD_ne _ .equals rfl nofun)
  | literal | comma | star | error => cases hk

namespace Query

/-- One pair of quotes is taken away. -/
theorem stripQuotes_literal (cs : List Char) :
    stripQuotes (String.ofList (Scan.quoteMark :: (cs ++ [Scan.quoteMark]))) =
      String.ofList cs := by
  have hlast : (Scan.quoteMark :: (cs ++ [Scan.quoteMark])).getLast? = some Scan.quoteMark := by
    rw [← List.cons_append, List.getLast?_concat]
  have hquoted : quotedBy '\'' (Scan.quoteMark :: (cs ++ [Scan.quoteMark])) = true := by
    rw [quotedBy, hlast]
    simp [Scan.quoteMark]
  rw [stripQuotes, String.toList_ofList, stripQuoteChars, hquoted]
  simp

end Query

/-- A literal without its quotes is the content of one. -/
theorem Token.Written.isContent {t : Token} (h : t.Written) (hk : t.kind = .string) :
    IsContent (Query.stripQuotes t.text) := by
  obtain ⟨t₀, hlex, hext⟩ := h
  rw [hext.kind] at hk
  rw [hext.text]
  cases hlex with
  | @literal cs _ hne hq =>
    rw [Query.stripQuotes_literal]
    exact ⟨by simpa using hne, by simpa using hq⟩
  | word => exact absurd hk (TokenKind.keyword?_getD_ne _ .string rfl nofun)
  | comma | star | equals | error => cases hk

/-! ### What trees say -/

/-- A tree that the grammar makes of tokens of a text. -/
structure Tree.Genuine (t : Tree) : Prop where
  grammatical : t.Grammatical
  written : ∀ token ∈ t.leaves, token.Written

/-- Every part of a tree is made of tokens of the text, too. -/
theorem Tree.Genuine.child {kind : NodeKind} {children : List Tree} {errors : List String}
    (h : (Tree.node kind children errors).Genuine) : ∀ c ∈ children, c.Genuine := by
  intro c hc
  obtain ⟨hg, hw⟩ := h
  refine ⟨((Tree.licensed_node ..).1 hg).2 c hc, fun t ht => hw t ?_⟩
  rw [Tree.leaves, Tree.leavesOf_eq_flatMap]
  exact List.mem_flatMap.2 ⟨c, hc, ht⟩

/-- The nodes of a tree of a text are those that the grammar makes. -/
theorem Tree.Genuine.schema {kind : NodeKind} {children : List Tree} {errors : List String}
    (h : (Tree.node kind children errors).Genuine) : Tree.Schema kind children :=
  ((Tree.licensed_node ..).1 h.grammatical).1.2

/-- A token of a tree of a text is a token of the text. -/
theorem Tree.Genuine.leaf_written {t : Token} (h : (Tree.leaf t).Genuine) : t.Written :=
  h.written t (.head _)

/-- A comparison whose parts can be written as tokens. -/
structure Predicate.Printable (p : Predicate) : Prop where
  key : IsContent p.key
  operator : p.operator = "="
  value : IsContent p.value

namespace Query

/-- What an operand says can stand between quotes. -/
theorem operandText?_isContent {tree : Tree} (h : tree.Genuine)
    (hs : operandText? tree = some s) : IsContent s := by
  unfold operandText? at hs
  split at hs
  · cases hs
    have hleaf := h.child _ (.head _)
    cases h.schema with
    | name hk => exact (hleaf.leaf_written.isName hk).isContent
  · cases hs
    have hleaf := h.child _ (.head _)
    cases h.schema with
    | string hk => exact hleaf.leaf_written.isContent hk
  · cases hs

/-- A comparison of two joined conditions is one of either. -/
theorem mem_join {p : Predicate} {c : Connector} {as bs : List Condition}
    (h : .comparison p ∈ join c as bs) : .comparison p ∈ as ∨ .comparison p ∈ bs := by
  unfold join at h
  split at h
  case isTrue => exact List.mem_append.1 h
  case isFalse => simpa using h

/-- The comparisons of a condition can be written. -/
theorem conditionsIn_printable {tree : Tree} (h : tree.Genuine) :
    ∀ p, .comparison p ∈ conditionsIn tree → p.Printable := by
  intro p hp
  fun_induction conditionsIn tree with
  | case1 lhs op rhs errors c _ ih ih' =>
    obtain hl | hr := mem_join hp
    · exact ih (h.child _ (by simp)) hl
    · exact ih' (h.child _ (by simp)) hr
  | case2 lhs op rhs errors _ hk =>
    unfold comparisonOf at hp
    split at hp
    case h_1 hkey hvalue =>
      obtain rfl : p = _ := by simpa using hp
      have hop := (h.child (.leaf op) (by simp)).leaf_written
      exact ⟨operandText?_isContent (h.child lhs (by simp)) hkey, hop.text_eq hk,
        operandText?_isContent (h.child rhs (by simp)) hvalue⟩
    case h_2 => cases hp
  | case3 => cases hp
  | case4 => cases hp

/-- A query that can be written as tokens. -/
structure Printable (q : Query) : Prop where
  table : q.table = "" ∨ IsName q.table
  fields : ∀ f ∈ q.fields, IsContent f
  alternating : q.conditions = [] ∨ Alternating q.conditions
  comparisons : ∀ p, .comparison p ∈ q.conditions → p.Printable

/-- The children of a clause are made of tokens of the text, if there is such a clause. -/
theorem genuine_children {clause : Option Tree} (h : ∀ c ∈ clause, c.Genuine) :
    ∀ c ∈ (clause.map Tree.children).getD [], c.Genuine := by
  cases clause with
  | none => exact List.forall_mem_nil _
  | some tree =>
    cases tree with
    | leaf => exact List.forall_mem_nil _
    | node => exact (h _ rfl).child

/-- The table in a clause is a name, if there is one. -/
theorem tableIn_isName {clause : Option Tree} (h : ∀ c ∈ clause, c.Genuine) :
    tableIn clause = "" ∨ IsName (tableIn clause) := by
  rw [tableIn]
  cases hfind : List.find? (·.kind == .identifier)
      (List.filterMap Tree.token? ((clause.map Tree.children).getD [])) with
  | none => exact .inl rfl
  | some t =>
    obtain ⟨c, hc, ht⟩ := List.mem_filterMap.1 (List.mem_of_find?_eq_some hfind)
    have hk : t.kind = .identifier := by simpa using List.find?_some hfind
    cases c with
    | node => cases ht
    | leaf =>
      cases ht
      exact .inr ((genuine_children h _ hc).leaf_written.isName hk)

/-- The fields in a list can be written between quotes. -/
theorem fieldsIn_isContent {clause : Option Tree} (h : ∀ c ∈ clause, c.Genuine) :
    ∀ f ∈ fieldsIn clause, IsContent f := by
  intro f hf
  obtain ⟨c, hc, hs⟩ := List.mem_filterMap.1 hf
  exact operandText?_isContent (genuine_children h c hc) hs

/-- Comparisons and connectors alternate in a condition. -/
theorem conditionsInClause_alternating (clause : Option Tree) :
    conditionsInClause clause = [] ∨ Alternating (conditionsInClause clause) := by
  unfold conditionsInClause
  split
  · exact conditionsIn_alternating _
  · exact .inl rfl

/-- The comparisons in a clause can be written. -/
theorem conditionsInClause_printable {clause : Option Tree} (h : ∀ c ∈ clause, c.Genuine) :
    ∀ p, .comparison p ∈ conditionsInClause clause → p.Printable := by
  intro p hp
  unfold conditionsInClause at hp
  split at hp
  case h_1 condition hfind =>
    have hg := genuine_children h condition (List.mem_of_find?_eq_some hfind)
    exact conditionsIn_printable hg p hp
  case h_2 => cases hp

/-- What a statement asks for can be written. -/
theorem ofStatement_printable {children : List Tree} (h : ∀ c ∈ children, c.Genuine) :
    (ofStatement children).Printable := by
  have hclause (kind : NodeKind) :
      ∀ c ∈ children.find? (·.kind? == some kind), c.Genuine := fun c hc =>
    h c (List.mem_of_find?_eq_some hc)
  exact ⟨tableIn_isName (hclause _), fieldsIn_isContent (hclause _),
    conditionsInClause_alternating _, conditionsInClause_printable (hclause _)⟩

end Query

/-- The query of a text can be written. -/
theorem Derivation.File.printable {text : String} {children : List Tree}
    (h : File (Token.scan text) (.node .file [.node .selectStmt children []] []) late) :
    (Query.ofStatement children).Printable := by
  obtain ⟨_, -, hg⟩ := h.grammatical
  have hroot : Tree.Genuine _ := ⟨hg, h.written⟩
  exact Query.ofStatement_printable (hroot.child _ (.head _)).child

/-!
## The tokens of a printed query

A printed query is read as the tokens that it was written with (`Query.lexemes_print`). Its text is
put together from pieces, each of which is read on its own: a piece other than the first one starts
with a blank, a quote or a mark, so that no word before it goes on (`Scan.Reads`).
-/

/-- A word as a token. -/
def Token.ofWord (word : String) : Token :=
  ⟨(TokenKind.keyword? word).getD .identifier, word, ⟨0, 0⟩, []⟩

/-- A literal as a token. -/
def Token.ofLiteral (content : String) : Token :=
  ⟨.string, Query.literal content, ⟨0, 0⟩, []⟩

/-- A mark as a token. -/
def Token.ofMark (kind : TokenKind) (text : String) : Token := ⟨kind, text, ⟨0, 0⟩, []⟩

namespace Scan

/-! ### Pieces of text -/

/-- A text that goes on with no word, and is read as the tokens if nothing goes on with it. -/
structure Reads (s : String) (ts : List Token) : Prop where
  apart : ∀ rest, Apart rest → Apart (s.toList ++ rest)
  lexemes_eq : ∀ rest, Apart rest → lexemes (s.toList ++ rest) = ts ++ lexemes rest

/-- Nothing is read as no token. -/
theorem Reads.empty : Reads "" [] := ⟨fun _ h => h, fun _ _ => rfl⟩

/-- Pieces are read one after the other. -/
theorem Reads.append (h : Reads s ts) (h' : Reads s' ts') : Reads (s ++ s') (ts ++ ts') := by
  refine ⟨fun rest hrest => ?_, fun rest hrest => ?_⟩
  · rw [String.toList_append, List.append_assoc]
    exact h.apart _ (h'.apart rest hrest)
  · rw [String.toList_append, List.append_assoc, List.append_assoc,
      h.lexemes_eq _ (h'.apart rest hrest), h'.lexemes_eq rest hrest]

/-- The pieces of a list are read one after the other. -/
theorem Reads.join {α : Type} {f : α → String} {g : α → List Token} {l : List α}
    (h : ∀ a ∈ l, Reads (f a) (g a)) : Reads (String.join (l.map f)) (l.flatMap g) := by
  induction l with
  | nil => exact .empty
  | cons a l ih =>
    have ⟨ha, hl⟩ := List.forall_mem_cons.1 h
    rw [List.map_cons, String.join_cons, List.flatMap_cons]
    exact ha.append (ih hl)

/-- What starts with a blank goes on with no word. -/
theorem apart_blank (s : String) (rest : List Char) : Apart ((" " ++ s).toList ++ rest) := by
  rw [String.toList_append, List.append_assoc]
  exact apart_cons (by decide) _

/-- A blank before a piece changes nothing. -/
theorem Reads.blank (h : Reads s ts) : Reads (" " ++ s) ts := by
  refine ⟨fun rest _ => apart_blank s rest, fun rest hrest => ?_⟩
  rw [String.toList_append, List.append_assoc]
  exact (lexemes_blank (by decide) _).trans (h.lexemes_eq rest hrest)

/-- A word is read as it is if no letter follows. -/
theorem lexemes_ofWord (h : IsWord s.toList) (hrest : Apart rest) :
    lexemes (s.toList ++ rest) = Token.ofWord s :: lexemes rest := by
  rw [(Lexeme.word h hrest).lexemes_eq, String.ofList_toList, Token.ofWord]

/-- A word behind a blank is read as that word. -/
theorem Reads.word (h : IsWord s.toList) : Reads (" " ++ s) [Token.ofWord s] := by
  refine ⟨fun rest _ => apart_blank s rest, fun rest hrest => ?_⟩
  rw [String.toList_append, List.append_assoc]
  exact (lexemes_blank (by decide) _).trans (lexemes_ofWord h hrest)

/-- A literal is its content between two quotes. -/
theorem toList_literal (s : String) :
    (Query.literal s).toList = quoteMark :: (s.toList ++ [quoteMark]) := by
  have h : Query.literal s = "'" ++ s ++ "'" := rfl
  rw [h, String.toList_append, String.toList_append]
  rfl

/-- What stands between the quotes of a literal is read back. -/
theorem stripQuotes_toLiteral (s : String) : Query.stripQuotes (Query.literal s) = s := by
  have htext : Query.literal s = String.ofList (quoteMark :: (s.toList ++ [quoteMark])) := by
    rw [← toList_literal, String.ofList_toList]
  rw [htext, Query.stripQuotes_literal, String.ofList_toList]

/-- A literal is read as such. -/
theorem Reads.literal (h : IsContent s) : Reads (Query.literal s) [Token.ofLiteral s] := by
  obtain ⟨hne, hq⟩ := h
  refine ⟨fun rest _ => ?_, fun rest _ => ?_⟩
  · rw [toList_literal]
    exact apart_cons (by decide) _
  · have hbody : s.toList ≠ [] := by simpa using hne
    rw [toList_literal, (Lexeme.literal hbody hq).lexemes_eq, ← toList_literal,
      String.ofList_toList, Token.ofLiteral, List.singleton_append]

/-- A star is read as such. -/
theorem Reads.star : Reads "*" [Token.ofMark .star "*"] :=
  ⟨fun _ _ => apart_cons (by decide) _,
    fun _ _ => Lexeme.star.lexemes_eq⟩

/-- A comma and a blank are read as the comma. -/
theorem Reads.comma : Reads ", " [Token.ofMark .comma ","] := by
  refine ⟨fun _ _ => apart_cons (by decide) _, fun rest _ => ?_⟩
  have hblank := lexemes_blank (by decide : Text.isBlank ' ' = true) rest
  have hmark : lexemes (',' :: ' ' :: rest) = .ofMark .comma "," :: lexemes (' ' :: rest) :=
    Lexeme.comma.lexemes_eq
  rw [hblank] at hmark
  exact hmark

/-- An equals sign between blanks is read as such. -/
theorem Reads.equals : Reads " = " [Token.ofMark .equals "="] := by
  refine ⟨fun _ _ => apart_cons (by decide) _, fun rest _ => ?_⟩
  have hblank := lexemes_blank (by decide : Text.isBlank ' ' = true)
  have hmark : lexemes ('=' :: ' ' :: rest) = .ofMark .equals "=" :: lexemes (' ' :: rest) :=
    Lexeme.equals.lexemes_eq
  rw [hblank] at hmark
  exact (hblank _).trans hmark

end Scan

namespace Query

open Scan

/-! ### Queries put together -/

/-- The tokens of a piece of a condition. -/
def conditionTokens : Condition → List Token
  | .comparison p => [.ofLiteral p.key, .ofMark .equals "=", .ofLiteral p.value]
  | .connector c => [.ofWord c.word]

/-- The tokens of the fields. -/
def fieldTokens : List String → List Token
  | [] => [.ofMark .star "*"]
  | f :: fs => .ofLiteral f :: fs.flatMap fun g => [.ofMark .comma ",", .ofLiteral g]

/-- The tokens of the clause of the table. -/
def tableTokens (table : String) : List Token :=
  if table = "" then [] else [.ofWord "FROM", .ofWord table]

/-- The tokens of the clause of the condition. -/
def whereTokens (conditions : List Condition) : List Token :=
  if conditions.isEmpty then [] else .ofWord "WHERE" :: conditions.flatMap conditionTokens

/-- The tokens of a query. -/
def tokens (q : Query) : List Token :=
  .ofWord "SELECT" :: (fieldTokens q.fields ++ tableTokens q.table ++ whereTokens q.conditions)

/-- Joined texts, with the separator in front of all but the first one. -/
theorem intercalate_cons (separator first : String) (rest : List String) :
    separator.intercalate (first :: rest) =
      first ++ String.join (rest.map (separator ++ ·)) := by
  induction rest generalizing first with
  | nil => simp
  | cons second rest ih =>
    rw [String.intercalate_cons_cons, ih, List.map_cons, String.join_cons, String.append_assoc,
      String.append_assoc]

/-- A piece of a condition is read as its tokens. -/
theorem reads_printCondition {c : Condition} (h : ∀ p, c = .comparison p → p.Printable) :
    Reads (" " ++ printCondition c) (conditionTokens c) := by
  cases c with
  | comparison p =>
    have hp := h p rfl
    have hprint : printCondition (.comparison p) = literal p.key ++ " = " ++ literal p.value := rfl
    rw [hprint]
    exact ((Reads.literal hp.key).append .equals |>.append (.literal hp.value)).blank
  | connector c =>
    cases c with
    | and => exact .word (by decide)
    | or => exact .word (by decide)

/-- The printed fields are read as their tokens. -/
theorem reads_printFields {fields : List String} (h : ∀ f ∈ fields, IsContent f) :
    Reads (printFields fields) (fieldTokens fields) := by
  cases fields with
  | nil => exact .star
  | cons f fs =>
    have ⟨hf, hfs⟩ := List.forall_mem_cons.1 h
    have hprint : printFields (f :: fs) =
        literal f ++ String.join (fs.map fun g => ", " ++ literal g) := by
      simp only [printFields, List.isEmpty_cons, List.map_cons, intercalate_cons, List.map_map]
      rfl
    rw [hprint]
    exact (Reads.literal hf).append
      (.join fun g hg => Reads.comma.append (.literal (hfs g hg)))

/-- The printed table is read as its tokens. -/
theorem reads_table {table : String} (h : table = "" ∨ IsName table) :
    Reads (if table = "" then "" else " FROM " ++ table) (tableTokens table) := by
  unfold tableTokens
  split
  case isTrue => exact .empty
  case isFalse hne =>
    have hword := (h.resolve_left hne).1
    have hsplit : " FROM " ++ table = " " ++ "FROM" ++ (" " ++ table) := by
      rw [← String.append_assoc]
      rfl
    rw [hsplit]
    exact (Reads.word (by decide)).append (.word hword)

/-- The printed condition is read as its tokens. -/
theorem reads_where {conditions : List Condition}
    (h : ∀ p, .comparison p ∈ conditions → p.Printable) :
    Reads (if conditions.isEmpty then ""
        else " WHERE " ++ " ".intercalate (conditions.map printCondition))
      (whereTokens conditions) := by
  cases conditions with
  | nil => exact .empty
  | cons c cs =>
    have hpieces : Reads (String.join ((c :: cs).map fun d => " " ++ printCondition d))
        ((c :: cs).flatMap conditionTokens) :=
      .join fun d hd => reads_printCondition fun p hp => h p (hp ▸ hd)
    have hsplit : " WHERE " ++ " ".intercalate ((c :: cs).map printCondition) =
        " " ++ "WHERE" ++ String.join ((c :: cs).map fun d => " " ++ printCondition d) := by
      rw [List.map_cons, intercalate_cons, List.map_cons, String.join_cons, List.map_map,
        ← String.append_assoc, ← String.append_assoc, ← String.append_assoc]
      rfl
    rw [List.isEmpty_cons, if_neg (by decide), hsplit]
    exact (Reads.word (by decide)).append hpieces

/-- **A printed query is read as its tokens.** -/
theorem lexemes_print {q : Query} (h : q.Printable) : lexemes q.print.toList = q.tokens := by
  have hfields := (reads_printFields h.fields).blank
  have hrest := (hfields.append (reads_table h.table)).append (reads_where h.comparisons)
  have hsplit (f t w : String) :
      "SELECT " ++ f ++ t ++ w = "SELECT" ++ (" " ++ f ++ t ++ w) := by
    rw [← String.append_assoc, ← String.append_assoc, ← String.append_assoc]
    rfl
  have hapart := hrest.apart [] nofun
  have hread := hrest.lexemes_eq [] nofun
  rw [List.append_nil] at hapart hread
  rw [print, hsplit, String.toList_append, lexemes_ofWord (by decide) hapart, hread,
    lexemes_nil, List.append_nil, tokens]

end Query

end FeedQuery
