import FeedQuery.Proofs.Token.Scan

/-!
# Where the tokens of a text stand

The tokens of a text cover it, but for blanks between them (`Token.scan_covers`). Each stands at its
place, one behind the other; and a word stands there whole. The latter is a fact about both sides of
the word: what follows it goes on with no word by the lexical grammar, and no word runs into it from
what is before it (`Scan.Seam`), which is kept from token to token (`Scan.Lexeme.seam`).
-/

namespace FeedQuery

open Scan

/-- The token is a literal without its closing quote. -/
def Token.IsUnterminated (t : Token) : Prop :=
  ∃ body, t.text.toList = quoteMark :: body ∧ quoteMark ∉ body

namespace Scan

/-! ## Kinds of tokens -/

/-- The words that are keywords. -/
def keywords : List String := ["SELECT", "FROM", "WHERE", "AND", "OR"]

/-- The keywords are words. -/
theorem isWord_of_mem_keywords {word : String} (h : word ∈ keywords) : IsWord word.toList := by
  have hall : ∀ word ∈ keywords, IsWord word.toList := by decide
  exact hall word h

/-- A word has the kind of a keyword exactly when it is one. -/
theorem isKeyword_keyword? (word : String) :
    ((TokenKind.keyword? word).getD .identifier).isKeyword = true ↔ word ∈ keywords := by
  unfold TokenKind.keyword?
  repeat' split
  all_goals simp_all [TokenKind.isKeyword, keywords]

/-- The kind of a keyword is called by the keyword. -/
theorem name_keyword? {word : String} (h : word ∈ keywords) :
    ((TokenKind.keyword? word).getD .identifier).name = word := by
  have hall : ∀ word ∈ keywords,
      ((TokenKind.keyword? word).getD .identifier).name = word := by decide
  exact hall word h

section
variable {kind : TokenKind} {cs rest : List Char} {errors : List String}

/-- A token has characters. -/
theorem Lexeme.ne_nil (h : Lexeme kind cs errors rest) : cs ≠ [] := by
  cases h with
  | word hword =>
    rintro rfl
    cases hword
  | literal | comma | star | equals | emptyLiteral | openLiteral | stray =>
    exact List.cons_ne_nil _ _

/-- Words are names and keywords, and no other token is one. -/
theorem Lexeme.isWord_iff (h : Lexeme kind cs errors rest) :
    IsWord cs ↔ kind = .identifier ∨ kind.isKeyword = true := by
  cases h with
  | word hword =>
    refine iff_of_true hword ?_
    cases hkey : TokenKind.keyword? (String.ofList cs) with
    | none => exact .inl rfl
    | some kind => exact .inr (TokenKind.isKeyword_of_keyword? hkey)
  | stray _ hl => exact iff_of_false (fun hword => by simp [hword.1] at hl) (by decide)
  | literal | emptyLiteral | openLiteral =>
    exact iff_of_false (fun hword => absurd hword.1 (by decide)) (by decide)
  | comma | star | equals => exact iff_of_false (by decide) (by decide)

/-- No word goes on behind a name or a keyword. -/
theorem Lexeme.apart (h : Lexeme kind cs errors rest) (hword : IsWord cs) : Apart rest := by
  cases h with
  | word _ hrest => exact hrest
  | stray _ hl => simp [hword.1] at hl
  | literal | emptyLiteral | openLiteral | comma | star | equals =>
    exact absurd hword.1 (by decide)

/-- The keywords are told by their texts. -/
theorem Lexeme.isKeyword_iff (h : Lexeme kind cs errors rest) :
    kind.isKeyword = true ↔ String.ofList cs ∈ keywords := by
  by_cases hword : IsWord cs
  · cases h with
    | word => exact isKeyword_keyword? _
    | stray _ hl => simp [hword.1] at hl
    | literal | emptyLiteral | openLiteral | comma | star | equals =>
      exact absurd hword.1 (by decide)
  · have hkind := mt h.isWord_iff.2 hword
    refine iff_of_false (fun hkey => hkind (.inr hkey)) fun hmem => hword ?_
    have := isWord_of_mem_keywords hmem
    rwa [String.toList_ofList] at this

/-- A keyword is named as it is written. -/
theorem Lexeme.name_eq (h : Lexeme kind cs errors rest) (hkey : kind.isKeyword = true) :
    kind.name = String.ofList cs := by
  have hmem := h.isKeyword_iff.1 hkey
  cases h with
  | word => exact name_keyword? hmem
  | literal | comma | star | equals | emptyLiteral | openLiteral | stray => cases hkey

/-- Mistakes, and no other tokens, carry a message. -/
theorem Lexeme.length_errors (h : Lexeme kind cs errors rest) :
    errors.length = if kind = .error then 1 else 0 := by
  cases h with
  | word => exact (if_neg (TokenKind.keyword?_getD_ne _ .error rfl nofun)).symm
  | literal | comma | star | equals | emptyLiteral | openLiteral | stray => rfl

/-- What starts with a quote is a literal, or one without a content or an end. -/
theorem Lexeme.quoted_cases {tail : List Char} (h : Lexeme kind (quoteMark :: tail) errors rest) :
    (∃ body, tail = body ++ [quoteMark] ∧ body ≠ [] ∧ quoteMark ∉ body ∧ kind = .string) ∨
      tail = [quoteMark] ∨ quoteMark ∉ tail ∧ rest = [] := by
  generalize hcs : quoteMark :: tail = cs at h
  cases h with
  | literal hne hbody =>
    obtain rfl := List.tail_eq_of_cons_eq hcs
    exact .inl ⟨_, rfl, hne, hbody, rfl⟩
  | emptyLiteral => exact .inr (.inl (List.tail_eq_of_cons_eq hcs))
  | openLiteral hbody =>
    obtain rfl := List.tail_eq_of_cons_eq hcs
    exact .inr (.inr ⟨hbody, rfl⟩)
  | word hword =>
    subst hcs
    exact absurd hword.1 (by decide)
  | stray _ _ hc =>
    obtain rfl := List.head_eq_of_cons_eq hcs
    simp at hc
  | comma | star | equals => exact absurd (List.head_eq_of_cons_eq hcs) (by decide)

/-- A literal is a content between two quotes. -/
theorem Lexeme.string_iff (h : Lexeme kind cs errors rest) :
    kind = .string ↔
      ∃ body, cs = quoteMark :: (body ++ [quoteMark]) ∧ body ≠ [] ∧ quoteMark ∉ body := by
  constructor
  · intro hk
    cases h with
    | literal hne hbody => exact ⟨_, rfl, hne, hbody⟩
    | word => exact absurd hk (TokenKind.keyword?_getD_ne _ .string rfl nofun)
    | comma | star | equals | emptyLiteral | openLiteral | stray => cases hk
  · rintro ⟨body, rfl, hne, hbody⟩
    obtain ⟨-, -, -, -, hk⟩ | hempty | ⟨hopen, -⟩ := h.quoted_cases
    · exact hk
    · exact absurd (by simpa using hempty) hne
    · simp at hopen

/-- Nothing follows a literal without an end. -/
theorem Lexeme.rest_eq_nil (h : Lexeme kind (quoteMark :: body) errors rest)
    (hbody : quoteMark ∉ body) : rest = [] := by
  obtain ⟨body, rfl, -⟩ | rfl | ⟨-, hrest⟩ := h.quoted_cases
  · simp at hbody
  · simp at hbody
  · exact hrest

end

/-! ## Words do not run across tokens -/

/-- No word starts before the seam and goes on behind it. -/
def Seam (before after : List Char) : Prop :=
  ∀ pre l r post, before = pre ++ l → after = r ++ post → IsWord (l ++ r) → l = [] ∨ r = []

/-- No word starts before the start of a text. -/
theorem seam_nil (after : List Char) : Seam [] after := by
  rintro pre l r post hbefore - -
  exact .inl (List.append_eq_nil_iff.1 hbefore.symm).2

/-- No word goes on where none can. -/
theorem seam_of_apart (before : List Char) {after : List Char} (h : Apart after) :
    Seam before after := by
  rintro pre l r post - hafter hword
  cases r with
  | nil => exact .inr rfl
  | cons d r =>
    subst hafter
    have hd : isWordPart d = false := h d rfl
    have hpart := hword.all d (by simp)
    rw [hd] at hpart
    cases hpart

/-- What ends a text with a character is empty or ends with it, too. -/
theorem eq_nil_or_concat_of_append {before pre l : List Char}
    (h : before ++ [c] = pre ++ l) : l = [] ∨ ∃ l', l = l' ++ [c] ∧ before = pre ++ l' := by
  rcases List.eq_nil_or_concat l with rfl | ⟨l, d, rfl⟩
  · exact .inl rfl
  · rw [List.concat_eq_append, ← List.append_assoc] at h
    obtain ⟨hpre, hd⟩ := List.append_inj' h rfl
    obtain rfl := List.singleton_inj.1 hd
    exact .inr ⟨l, List.concat_eq_append, hpre⟩

/-- No word runs across behind a character that it cannot hold. -/
theorem seam_of_not_isWordPart (before after : List Char) (hc : isWordPart c = false) :
    Seam (before ++ [c]) after := by
  rintro pre l r post hbefore - hword
  rcases eq_nil_or_concat_of_append hbefore with rfl | ⟨l, rfl, -⟩
  · exact .inl rfl
  · have hpart := hword.all c (by simp)
    rw [hc] at hpart
    cases hpart

/-- A character that starts no word can be passed over. -/
theorem Seam.concat {before after : List Char} (h : Seam before (c :: after))
    (hc : isLetter c = false) : Seam (before ++ [c]) after := by
  rintro pre l r post hbefore hafter hword
  rcases eq_nil_or_concat_of_append hbefore with rfl | ⟨l, rfl, hpre⟩
  · exact .inl rfl
  · -- a word that ran across the new seam would start with `c` or run across the old one
    obtain rfl | hr := h pre l (c :: r) post hpre (by rw [hafter]; rfl) (by simpa using hword)
    · simp [hword.1] at hc
    · cases hr

/-- No word runs from a token into what is behind it. -/
theorem Lexeme.seam {kind : TokenKind} {cs rest before : List Char} {errors : List String}
    (h : Lexeme kind cs errors rest) (hseam : Seam before (cs ++ rest)) :
    Seam (before ++ cs) rest := by
  cases h with
  | word _ hrest => exact seam_of_apart _ hrest
  | openLiteral => exact seam_of_apart _ apart_nil
  | literal =>
    rw [← List.cons_append, ← List.append_assoc]
    exact seam_of_not_isWordPart _ _ (by decide)
  | emptyLiteral =>
    rw [List.append_cons]
    exact seam_of_not_isWordPart _ _ (by decide)
  | stray _ hl => exact hseam.concat hl
  | comma | star | equals => exact hseam.concat (by decide)

/-! ## Places -/

/-- The token is read from the characters between `before` and `after`. -/
structure ReadBetween (before after : List Char) (t : Token) : Prop where
  start : t.span.start = Text.byteSize before
  stop : t.span.stop = Text.byteSize (before ++ t.text.toList)
  lexeme : Lexeme t.kind t.text.toList t.errors after
  seam : Seam before (t.text.toList ++ after)

/-- A token is read from its characters where no word goes on into it. -/
theorem Lexeme.readBetween {kind : TokenKind} {cs rest before : List Char} {errors : List String}
    (h : Lexeme kind cs errors rest) (hseam : Seam before (cs ++ rest)) :
    ReadBetween before rest (tokenAt (Text.byteSize before) kind cs errors) where
  start := rfl
  stop := by simp [tokenAt]
  lexeme := by simpa [tokenAt] using h
  seam := by simpa [tokenAt] using hseam

section
variable {start : Nat} {cs : List Char} {ts : List Token}

/-- The tokens of the second part of a text are read from it. -/
theorem Tiles.exists_readBetween (h : Tiles start cs ts) {before : List Char}
    (hstart : start = Text.byteSize before) (hseam : Seam before cs) :
    ∀ t ∈ ts, ∃ pre post, before ++ cs = pre ++ t.text.toList ++ post ∧ ReadBetween pre post t := by
  induction h generalizing before with
  | nil => exact List.forall_mem_nil _
  | @blank start c cs ts hc _ ih =>
    rw [List.append_cons]
    have hl : isLetter c = false :=
      Bool.eq_false_iff.2 fun hl => by simp [isBlank_of_isLetter hl] at hc
    exact ih (by simp [hstart]) (hseam.concat hl)
  | @token start kind cs rest errors ts hlex _ ih =>
    subst hstart
    refine List.forall_mem_cons.2 ⟨⟨before, rest, ?_, hlex.readBetween hseam⟩, ?_⟩
    · simp [tokenAt]
    · rw [← List.append_assoc]
      exact ih (by simp) (hlex.seam hseam)

/-- No token stands before the text. -/
theorem Tiles.start_le (h : Tiles start cs ts) : ∀ t ∈ ts, start ≤ t.span.start := by
  induction h with
  | nil => exact List.forall_mem_nil _
  | blank _ _ ih => exact fun t ht => Nat.le_of_add_right_le (ih t ht)
  | token _ _ ih =>
    exact List.forall_mem_cons.2 ⟨Nat.le_refl _, fun t ht => Nat.le_of_add_right_le (ih t ht)⟩

/-- The tokens stand one behind the other. -/
theorem Tiles.pairwise (h : Tiles start cs ts) :
    ts.Pairwise fun t u => t.span.stop ≤ u.span.start := by
  induction h with
  | nil => exact .nil
  | blank _ _ ih => exact ih
  | token _ hrest ih => exact .cons hrest.start_le ih

/-- The tokens start in the order of the text. -/
theorem Tiles.pairwise_start (h : Tiles start cs ts) :
    ts.Pairwise fun t u => t.span.start ≤ u.span.start := by
  induction h with
  | nil => exact .nil
  | blank _ _ ih => exact ih
  | token _ hrest ih => exact .cons (fun t ht => Nat.le_of_add_right_le (hrest.start_le t ht)) ih

/-- A character that is in no token is a blank. -/
theorem Tiles.isBlank_or_exists (h : Tiles start cs ts) {before after : List Char} {c : Char}
    (hcs : cs = before ++ c :: after) : Text.isBlank c = true ∨ ∃ t ∈ ts,
      t.span.start ≤ start + Text.byteSize before ∧
        start + Text.byteSize before < t.span.stop := by
  induction h generalizing before with
  | nil => simp at hcs
  | @blank start d cs ts hd _ ih =>
    cases before with
    | nil =>
      obtain ⟨rfl, -⟩ := List.cons.inj hcs
      exact .inl hd
    | cons e before =>
      obtain ⟨rfl, hrest⟩ := List.cons.inj hcs
      simpa [Nat.add_assoc] using ih hrest
  | @token start kind cs rest errors ts _ _ ih =>
    have hbehind (mid : List Char) (hbefore : before = cs ++ mid)
        (hrest : rest = mid ++ c :: after) : Text.isBlank c = true ∨
          ∃ t ∈ tokenAt start kind cs errors :: ts,
            t.span.start ≤ start + Text.byteSize before ∧
              start + Text.byteSize before < t.span.stop := by
      obtain hblank | ⟨t, ht, hplace⟩ := ih hrest
      · exact .inl hblank
      · refine .inr ⟨t, .tail _ ht, ?_⟩
        rwa [hbefore, Text.byteSize_append, ← Nat.add_assoc]
    -- the character is behind the token or in it
    rcases List.append_eq_append_iff.1 hcs with ⟨mid, hbefore, hrest⟩ | ⟨mid, hmid, hafter⟩
    · exact hbehind mid hbefore hrest
    · cases mid with
      | nil => exact hbehind [] (by simpa using hmid.symm) hafter.symm
      | cons d mid =>
        obtain ⟨rfl, -⟩ := List.cons.inj hafter
        have hd := c.utf8Size_pos
        refine .inr ⟨_, .head _, Nat.le_add_right .., ?_⟩
        simp only [tokenAt, hmid, Text.byteSize_append, Text.byteSize_cons]
        omega

/-- Whatever is tiled behind a literal without an end is nothing. -/
theorem Tiles.not_unterminated (h : Tiles start cs ts) :
    ∀ t ∈ ts.dropLast, ¬ t.IsUnterminated := by
  induction h with
  | nil => exact List.forall_mem_nil _
  | blank _ _ ih => exact ih
  | @token start kind cs rest errors ts hlex hrest ih =>
    cases ts with
    | nil => exact List.forall_mem_nil _
    | cons u us =>
      refine List.forall_mem_cons.2 ⟨?_, ih⟩
      rintro ⟨body, hcs, hbody⟩
      obtain rfl : cs = quoteMark :: body := by simpa [tokenAt] using hcs
      obtain rfl := hlex.rest_eq_nil hbody
      exact hrest.ne_nil rfl

end

/-- The characters between `before` and `after` are a word, and none of those around them can be
taken into it. -/
def MaximalWord (before cs after : List Char) : Prop :=
  IsWord cs ∧ ∀ pre l r post, before = pre ++ l → after = r ++ post → IsWord (l ++ cs ++ r) →
    l = [] ∧ r = []

/-- A word that is read is read whole. -/
theorem ReadBetween.maximalWord {before after : List Char} {t : Token}
    (h : ReadBetween before after t) (hword : IsWord t.text.toList) :
    MaximalWord before t.text.toList after := by
  refine ⟨hword, fun pre l r post hbefore hafter hlong => ⟨?_, ?_⟩⟩
  · rw [List.append_assoc] at hlong
    obtain hl | hr := h.seam pre l (t.text.toList ++ r) post hbefore (by simp [hafter]) hlong
    · exact hl
    · exact absurd (List.append_eq_nil_iff.1 hr).1 h.lexeme.ne_nil
  · obtain hl | hr := seam_of_apart (l ++ t.text.toList) (h.lexeme.apart hword) []
      (l ++ t.text.toList) r post rfl hafter hlong
    · exact absurd (List.append_eq_nil_iff.1 hl).2 h.lexeme.ne_nil
    · exact hr

end Scan

/-! ## Whole texts -/

/-- The token is one of a text, between the characters `before` and `after`. -/
structure Token.Covers (text before after : List Char) (t : Token) : Prop where
  text_eq : text = before ++ t.text.toList ++ after
  span_eq : t.span = ⟨Text.byteSize before, Text.byteSize (before ++ t.text.toList)⟩
  start_lt_stop : t.span.start < t.span.stop
  slice_eq : Text.sliceBytes? t.span.start t.span.stop text = some t.text.toList
  /-- Names and keywords are the words, and these cannot be longer. -/
  word : t.kind = .identifier ∨ t.kind.isKeyword = true ↔
    MaximalWord before t.text.toList after
  /-- Keywords are told by their texts. -/
  keyword : t.kind.isKeyword = true ↔ t.text ∈ keywords
  name_eq : t.kind.isKeyword = true → t.kind.name = t.text
  /-- Literals have a content between quotes. -/
  literal : t.kind = .string ↔
    ∃ body, t.text.toList = quoteMark :: (body ++ [quoteMark]) ∧ body ≠ [] ∧ quoteMark ∉ body
  /-- Mistakes, and no other tokens, have a message. -/
  length_errors : t.errors.length = if t.kind = .error then 1 else 0

/-- A token that is read from a text covers its characters there. -/
theorem Scan.ReadBetween.covers {before after : List Char} {t : Token}
    (h : ReadBetween before after t) :
    t.Covers (before ++ t.text.toList ++ after) before after where
  text_eq := rfl
  span_eq := congr (congrArg Span.mk h.start) h.stop
  start_lt_stop := by
    have := Text.byteSize_pos h.lexeme.ne_nil
    rw [h.start, h.stop, Text.byteSize_append]
    omega
  slice_eq := by
    rw [h.start, h.stop]
    exact Text.sliceBytes?_append ..
  word := h.lexeme.isWord_iff.symm.trans ⟨h.maximalWord, And.left⟩
  keyword := by simpa using h.lexeme.isKeyword_iff
  name_eq hkey := by simpa using h.lexeme.name_eq hkey
  literal := h.lexeme.string_iff
  length_errors := h.lexeme.length_errors

/-- **The tokens of a text cover it, but for blanks.** Each stands where it says, one behind the
other; whatever is in none of them is a blank; and only the last of them can be a literal without an
end. -/
theorem Token.scan_covers (text : String) :
    (∀ t ∈ scan text, ∃ before after, t.Covers text.toList before after) ∧
    (scan text).Pairwise (fun t u => t.span.stop ≤ u.span.start) ∧
    (∀ before c after, text.toList = before ++ c :: after → Text.isBlank c = true ∨
      ∃ t ∈ scan text,
        t.span.start ≤ Text.byteSize before ∧ Text.byteSize before < t.span.stop) ∧
    ∀ t ∈ (scan text).dropLast, ¬ t.IsUnterminated := by
  have h : Tiles 0 text.toList (scan text) := tokens_tiles 0 text.toList
  refine ⟨fun t ht => ?_, h.pairwise, fun before c after htext => ?_, h.not_unterminated⟩
  · obtain ⟨before, after, htext, hread⟩ := h.exists_readBetween rfl (seam_nil _) t ht
    rw [List.nil_append] at htext
    exact ⟨before, after, htext ▸ hread.covers⟩
  · simpa using h.isBlank_or_exists htext

end FeedQuery
