import FeedQuery.Proofs.Text
import FeedQuery.Token

/-!
# The tokens of a text

The lexical grammar says which characters are a token, and what may follow them (`Scan.Lexeme`).
The tokens of a text tile it: each stands where the one before it ends, with nothing but blanks in
between (`Scan.Tiles`). The invariant of the reader is that it keeps the start of a word or of a
literal (`Scan.Pending.Valid`); so what it has read and what is left of the text, taken together,
are tiled by the tokens that it still makes (`Scan.tiled`). A text is tiled by no other tokens
(`Token.scan_eq_iff`). In particular every token is a word, a literal, a mark or a mistake with one
message (`Token.lexical_of_mem_scan`).

Where a text starts does not matter for what its tokens are, apart from their places
(`Scan.map_unplaced_tokens`). The tokens without their places (`Scan.lexemes`) can therefore be read
off a text piece by piece: there is one equation for blanks, and one for all that the lexical
grammar calls a token (`Scan.Lexeme.lexemes_eq`).
-/

namespace FeedQuery

open Scan

/-- A word: a letter, then letters and dots. -/
def Scan.IsWord : List Char → Prop
  | [] => False
  | c :: cs => isLetter c = true ∧ ∀ d ∈ cs, isWordPart d = true

instance : DecidablePred IsWord
  | [] => inferInstanceAs (Decidable False)
  | _ :: _ => decidable_of_iff _ (and_congr .rfl List.all_eq_true)

/-- Every letter can go on with a word. -/
theorem Scan.IsWord.all {cs : List Char} (h : IsWord cs) : ∀ c ∈ cs, isWordPart c = true := by
  cases cs with
  | nil => cases h
  | cons c cs =>
    refine List.forall_mem_cons.2 ⟨?_, h.2⟩
    simp [isWordPart, h.1]

/-- The kind of a keyword is one. -/
theorem TokenKind.isKeyword_of_keyword? {word : String} {kind : TokenKind}
    (h : TokenKind.keyword? word = some kind) : kind.isKeyword = true := by
  unfold TokenKind.keyword? at h
  repeat' split at h
  all_goals cases h
  all_goals rfl

/-- A word is a keyword or an identifier. -/
theorem TokenKind.keyword?_getD_ne (word : String) (kind : TokenKind)
    (hkey : kind.isKeyword = false) (hid : kind ≠ .identifier) :
    (keyword? word).getD .identifier ≠ kind := by
  rintro rfl
  cases h : keyword? word with
  | none => simp [h] at hid
  | some kind => simp [h, isKeyword_of_keyword? h] at hkey

/-- What the text, the kind and the messages of a token can be. -/
inductive Token.Lexical : Token → Prop
  | word {cs : List Char} {span : Span} : IsWord cs →
      Lexical ⟨(TokenKind.keyword? (String.ofList cs)).getD .identifier, String.ofList cs, span, []⟩
  | literal {cs : List Char} {span : Span} : cs ≠ [] → quoteMark ∉ cs →
      Lexical ⟨.string, String.ofList (quoteMark :: (cs ++ [quoteMark])), span, []⟩
  | comma {span : Span} : Lexical ⟨.comma, ",", span, []⟩
  | star {span : Span} : Lexical ⟨.star, "*", span, []⟩
  | equals {span : Span} : Lexical ⟨.equals, "=", span, []⟩
  | error {text message : String} {span : Span} : Lexical ⟨.error, text, span, [message]⟩

namespace Scan

/-! ## The lexical grammar -/

/-- No word goes on with these characters. -/
def Apart (cs : List Char) : Prop := ∀ c ∈ cs.head?, isWordPart c = false

/-- No word goes on at the end. -/
theorem apart_nil : Apart [] := nofun

/-- No word goes on with a character that is not part of one. -/
theorem apart_cons (hc : isWordPart c = false) (cs : List Char) : Apart (c :: cs) := by
  simpa [Apart] using hc

/-- The characters `cs` are a token of that kind and with those messages when `rest` follows. -/
inductive Lexeme : TokenKind → List Char → List String → List Char → Prop
  | word {cs rest : List Char} : IsWord cs → Apart rest →
      Lexeme ((TokenKind.keyword? (String.ofList cs)).getD .identifier) cs [] rest
  | literal {body rest : List Char} : body ≠ [] → quoteMark ∉ body →
      Lexeme .string (quoteMark :: (body ++ [quoteMark])) [] rest
  | comma {rest : List Char} : Lexeme .comma [','] [] rest
  | star {rest : List Char} : Lexeme .star ['*'] [] rest
  | equals {rest : List Char} : Lexeme .equals ['='] [] rest
  | emptyLiteral {rest : List Char} : Lexeme .error [quoteMark, quoteMark] [emptyLiteral] rest
  /-- A literal without an end takes all that is left. -/
  | openLiteral {body : List Char} : quoteMark ∉ body →
      Lexeme .error (quoteMark :: body) [unterminatedLiteral] []
  | stray {c : Char} {rest : List Char} : Text.isBlank c = false → isLetter c = false →
      c ∉ [quoteMark, ',', '*', '='] → Lexeme .error [c] [unexpectedCharacter c] rest

/-- The token of that kind and with those messages whose characters `cs` stand from byte `start`
on. -/
def tokenAt (start : Nat) (kind : TokenKind) (cs : List Char) (errors : List String) : Token :=
  ⟨kind, String.ofList cs, ⟨start, start + Text.byteSize cs⟩, errors⟩

/-- The characters, which stand from byte `start` on, are the tokens with blanks between them. -/
inductive Tiles : Nat → List Char → List Token → Prop
  | nil {start : Nat} : Tiles start [] []
  | blank {start : Nat} {c : Char} {cs : List Char} {ts : List Token} : Text.isBlank c = true →
      Tiles (start + c.utf8Size) cs ts → Tiles start (c :: cs) ts
  | token {start : Nat} {kind : TokenKind} {cs rest : List Char} {errors : List String}
      {ts : List Token} : Lexeme kind cs errors rest →
      Tiles (start + Text.byteSize cs) rest ts →
      Tiles start (cs ++ rest) (tokenAt start kind cs errors :: ts)

/-- A token that is read has the text and the messages of its kind. -/
theorem Lexeme.lexical {kind : TokenKind} {cs rest : List Char} {errors : List String}
    (h : Lexeme kind cs errors rest) (start : Nat) : (tokenAt start kind cs errors).Lexical := by
  cases h with
  | word h => exact .word h
  | literal hne hq => exact .literal hne hq
  | comma => exact .comma
  | star => exact .star
  | equals => exact .equals
  | emptyLiteral | openLiteral | stray => exact .error

/-- The tokens of a text have the texts and the messages of their kinds. -/
theorem Tiles.lexical {start : Nat} {cs : List Char} {ts : List Token} (h : Tiles start cs ts) :
    ∀ t ∈ ts, t.Lexical := by
  induction h with
  | nil => exact List.forall_mem_nil _
  | blank _ _ ih => exact ih
  | token h _ ih => exact List.forall_mem_cons.2 ⟨h.lexical _, ih⟩

/-! ## What the reader makes -/

/-- No letter is a blank. -/
theorem isBlank_of_isLetter {c : Char} (h : isLetter c = true) : Text.isBlank c = false := by
  have hval : c.val.toNat = c.toNat := rfl
  have ha : 'a'.val.toNat = 97 ∧ 'z'.val.toNat = 122 := ⟨rfl, rfl⟩
  have hA : 'A'.val.toNat = 65 ∧ 'Z'.val.toNat = 90 := ⟨rfl, rfl⟩
  simp only [isLetter, Bool.or_eq_true, Bool.and_eq_true, decide_eq_true_eq, Char.le_def,
    UInt32.le_iff_toNat_le] at h
  simp only [Text.isBlank, Bool.or_eq_false_iff, Bool.and_eq_false_iff, decide_eq_false_iff_not,
    beq_eq_false_iff_ne]
  omega

/-- A blank starts nothing. -/
theorem begin_blank (start : Nat) (hc : Text.isBlank c = true) : begin start c = ([], .idle) :=
  if_pos hc

/-- A letter starts a word. -/
theorem begin_letter (start : Nat) (hc : isLetter c = true) :
    begin start c = ([], .word start [c]) := by
  rw [begin, if_neg (by simp [isBlank_of_isLetter hc]), if_pos hc]

/-- A quote starts a literal. -/
theorem begin_quote (start : Nat) :
    begin start quoteMark = ([], .literal start [quoteMark]) := by
  rw [begin, if_neg (by decide), if_neg (by decide), if_pos rfl]

/-- Any other character is a token of its own. -/
theorem begin_mark (start : Nat) (hb : Text.isBlank c = false) (hl : isLetter c = false)
    (hq : c ≠ quoteMark) : begin start c = ([markToken start c], .idle) := by
  rw [begin, if_neg (by simp [hb]), if_neg (by simp [hl]), if_neg hq]

/-- The reader takes one character after the other. -/
theorem tokens_cons (start : Nat) (pending : Pending) (c : Char) (cs : List Char) :
    tokens start pending (c :: cs) = (step start c pending).1 ++
      tokens (start + c.utf8Size) (step start c pending).2 cs :=
  rfl

/-- A word goes on with a part of a word. -/
theorem IsWord.snoc {cs : List Char} (h : IsWord cs) (hc : isWordPart c = true) :
    IsWord (cs ++ [c]) := by
  cases cs with
  | nil => cases h
  | cons d ds =>
    refine ⟨h.1, List.forall_mem_append.2 ⟨h.2, ?_⟩⟩
    simpa using hc

/-- The byte where what the reader is in the middle of starts. -/
def Pending.first (start : Nat) : Pending → Nat
  | .idle => start
  | .word first _ | .literal first _ => first

/-- What the reader has kept, in the order of the text. -/
def Pending.kept : Pending → List Char
  | .idle => []
  | .word _ read | .literal _ read => read.reverse

/-- What the reader keeps at byte `start` is the start of a word or of a literal, up to there. -/
def Pending.Valid (start : Nat) : Pending → Prop
  | .idle => True
  | .word first read => IsWord read.reverse ∧ start = first + Text.byteSize read.reverse
  | .literal first read => (∃ body, read.reverse = quoteMark :: body ∧ quoteMark ∉ body) ∧
      start = first + Text.byteSize read.reverse

/-- Whatever it keeps of a text before `cs`, the reader tiles that and `cs` with tokens. -/
def Tiled (cs : List Char) : Prop :=
  ∀ (start : Nat) (pending : Pending), pending.Valid start →
    Tiles (pending.first start) (pending.kept ++ cs) (tokens start pending cs)

/-- A character that is neither a blank, nor a letter, nor a quote is a token of its own. -/
theorem tiles_mark {start : Nat} {c : Char} {cs : List Char} {ts : List Token}
    (hb : Text.isBlank c = false) (hl : isLetter c = false) (hq : c ≠ quoteMark)
    (h : Tiles (start + c.utf8Size) cs ts) : Tiles start (c :: cs) (markToken start c :: ts) := by
  have htoken (kind : TokenKind) (errors : List String) (hlex : Lexeme kind [c] errors cs) :
      Tiles start (c :: cs)
        (⟨kind, String.singleton c, ⟨start, start + c.utf8Size⟩, errors⟩ :: ts) := by
    simpa [tokenAt] using Tiles.token hlex h
  unfold markToken
  split
  case isTrue hc => exact htoken _ _ (by subst hc; exact .comma)
  case isFalse hcomma =>
    split
    case isTrue hc => exact htoken _ _ (by subst hc; exact .star)
    case isFalse hstar =>
      split
      case isTrue hc => exact htoken _ _ (by subst hc; exact .equals)
      case isFalse hequals => exact htoken _ _ (.stray hb hl (by simp [*]))

/-- Between tokens, a character is a token, or it is kept as the start of one. -/
theorem Tiled.idle {cs : List Char} (h : Tiled cs) (start : Nat) (c : Char) :
    Tiles start (c :: cs) (tokens start .idle (c :: cs)) := by
  rw [tokens_cons, step]
  cases hb : Text.isBlank c with
  | true =>
    rw [begin_blank start hb]
    exact .blank hb (h _ .idle trivial)
  | false =>
    cases hl : isLetter c with
    | true =>
      have hvalid : (Pending.word start [c]).Valid (start + c.utf8Size) :=
        ⟨⟨hl, List.forall_mem_nil _⟩, rfl⟩
      rw [begin_letter start hl]
      exact h _ _ hvalid
    | false =>
      by_cases hq : c = quoteMark
      · subst hq
        have hvalid : (Pending.literal start [quoteMark]).Valid (start + quoteMark.utf8Size) :=
          ⟨⟨[], rfl, List.not_mem_nil⟩, rfl⟩
        rw [begin_quote]
        exact h _ _ hvalid
      · rw [begin_mark start hb hl hq]
        exact tiles_mark hb hl hq (h _ .idle trivial)

/-- A literal whose closing quote has been read is a token. -/
theorem tiles_literal {first stop : Nat} {read body cs : List Char} {ts : List Token}
    (hread : read.reverse = quoteMark :: body) (hbody : quoteMark ∉ body)
    (hstop : stop = first + Text.byteSize (read.reverse ++ [quoteMark])) (h : Tiles stop cs ts) :
    Tiles first (read.reverse ++ quoteMark :: cs)
      (literalToken first (quoteMark :: read) stop :: ts) := by
  have hlen : read.length = body.length + 1 := by simpa using congrArg List.length hread
  rw [literalToken, List.reverse_cons]
  subst hstop
  rw [List.append_cons]
  split
  case isTrue hlong =>
    have hne : body ≠ [] := by
      rintro rfl
      simp [hlen] at hlong
    rw [hread] at h ⊢
    exact .token (.literal hne hbody) h
  case isFalse hshort =>
    have hnil : body = [] := List.length_eq_zero_iff.1 (by simp at hshort; omega)
    rw [hread, hnil] at h ⊢
    exact .token .emptyLiteral h

/-- What the reader keeps, and what is left of the text, are tiled by the tokens that it makes. -/
theorem tiled (cs : List Char) : Tiled cs := by
  induction cs with
  | nil =>
    intro start pending h
    cases pending with
    | idle => exact .nil
    | word first read =>
      obtain ⟨hword, rfl⟩ := h
      exact .token (.word hword apart_nil) .nil
    | literal first read =>
      obtain ⟨⟨body, hread, hbody⟩, rfl⟩ := h
      have hlex := Lexeme.openLiteral hbody
      rw [← hread] at hlex
      exact .token hlex .nil
  | cons c cs ih =>
    intro start pending h
    cases pending with
    | idle => exact ih.idle start c
    | word first read =>
      obtain ⟨hword, hstart⟩ := h
      rw [tokens_cons, step]
      cases hc : isWordPart c with
      | true =>
        have hvalid : (Pending.word first (c :: read)).Valid (start + c.utf8Size) := by
          refine ⟨by simpa using hword.snoc hc, ?_⟩
          simp [hstart]
          omega
        simpa [Pending.kept, Pending.first] using ih _ _ hvalid
      | false =>
        subst hstart
        exact .token (.word hword (apart_cons hc cs)) (ih.idle _ c)
    | literal first read =>
      obtain ⟨⟨body, hread, hbody⟩, hstart⟩ := h
      rw [tokens_cons, step]
      split
      case isTrue hq =>
        subst hq
        have hstop : start + quoteMark.utf8Size =
            first + Text.byteSize (read.reverse ++ [quoteMark]) := by
          simp [hstart]
          omega
        exact tiles_literal hread hbody hstop (ih _ .idle trivial)
      case isFalse hq =>
        have hvalid : (Pending.literal first (c :: read)).Valid (start + c.utf8Size) := by
          refine ⟨⟨body ++ [c], by simp [hread], ?_⟩, ?_⟩
          · simpa [hbody] using Ne.symm hq
          · simp [hstart]
            omega
        simpa [Pending.kept, Pending.first] using ih _ _ hvalid

/-- The tokens of a text tile it. -/
theorem tokens_tiles (start : Nat) (cs : List Char) : Tiles start cs (tokens start .idle cs) :=
  tiled cs start .idle trivial

end Scan

/-- **Every token of a text is a word, a literal, a mark or a mistake.** -/
theorem Token.lexical_of_mem_scan {text : String} {t : Token} (h : t ∈ Token.scan text) :
    t.Lexical :=
  (tokens_tiles 0 text.toList).lexical t h

/-- A token that is no mistake has no message. -/
theorem Token.Lexical.errors_eq_nil {t : Token} (h : t.Lexical) (hk : t.kind ≠ .error) :
    t.errors = [] := by
  cases h with
  | word | literal | comma | star | equals => rfl
  | error => exact absurd rfl hk

namespace Scan

/-! ## What a tiled text is read as -/

/-- The characters of a word are collected. -/
theorem tokens_word_append (start first : Nat) (read : List Char) {word : List Char}
    (hword : ∀ c ∈ word, isWordPart c = true) (cs : List Char) :
    tokens start (.word first read) (word ++ cs) =
      tokens (start + Text.byteSize word) (.word first (word.reverse ++ read)) cs := by
  induction word generalizing start read with
  | nil => rfl
  | cons c word ih =>
    have ⟨hc, hrest⟩ := List.forall_mem_cons.1 hword
    rw [List.cons_append, tokens_cons, step, if_pos hc, List.nil_append, ih _ _ hrest]
    simp [Nat.add_assoc]

/-- What does not go on with a word ends it. -/
theorem tokens_word_end (start first : Nat) (read : List Char) {cs : List Char} (hcs : Apart cs) :
    tokens start (.word first read) cs =
      wordToken first read start :: tokens start .idle cs := by
  cases cs with
  | nil => rfl
  | cons c cs =>
    have hc : isWordPart c = false := hcs c rfl
    rw [tokens_cons, step, if_neg (by simp [hc])]
    rfl

/-- The characters of a literal are collected. -/
theorem tokens_literal_append (start first : Nat) (read : List Char) {body : List Char}
    (hbody : quoteMark ∉ body) (cs : List Char) :
    tokens start (.literal first read) (body ++ cs) =
      tokens (start + Text.byteSize body) (.literal first (body.reverse ++ read)) cs := by
  induction body generalizing start read with
  | nil => rfl
  | cons c body ih =>
    have ⟨hc, hrest⟩ := not_or.1 (mt List.mem_cons.2 hbody)
    rw [List.cons_append, tokens_cons, step, if_neg (Ne.symm hc), List.nil_append, ih _ _ hrest]
    simp [Nat.add_assoc]

/-- A literal is collected up to the quote that ends it. -/
theorem tokens_literal (start : Nat) {body : List Char} (hbody : quoteMark ∉ body)
    (cs : List Char) :
    tokens start .idle (quoteMark :: (body ++ quoteMark :: cs)) =
      literalToken start (quoteMark :: (body.reverse ++ [quoteMark]))
          (start + Text.byteSize (quoteMark :: (body ++ [quoteMark]))) ::
        tokens (start + Text.byteSize (quoteMark :: (body ++ [quoteMark]))) .idle cs := by
  rw [tokens_cons, step, begin_quote, List.nil_append, tokens_literal_append _ _ _ hbody,
    tokens_cons, step, if_pos rfl]
  simp [Nat.add_assoc]

/-- What the lexical grammar calls a token is read as that token. -/
theorem Lexeme.tokens_eq {kind : TokenKind} {cs rest : List Char} {errors : List String}
    (h : Lexeme kind cs errors rest) (start : Nat) :
    tokens start .idle (cs ++ rest) =
      tokenAt start kind cs errors :: tokens (start + Text.byteSize cs) .idle rest := by
  cases h with
  | @word cs rest hword hrest =>
    cases cs with
    | nil => cases hword
    | cons c word =>
      obtain ⟨hc, hword⟩ := hword
      rw [List.cons_append, tokens_cons, step, begin_letter _ hc, List.nil_append,
        tokens_word_append _ _ _ hword, tokens_word_end _ _ _ hrest]
      simp [wordToken, tokenAt, Nat.add_assoc]
  | @literal body rest hne hbody =>
    have hlong : 2 < (quoteMark :: (body.reverse ++ [quoteMark])).length := by
      have := List.length_pos_iff.2 hne
      simp
      omega
    rw [List.cons_append, List.append_assoc, List.singleton_append, tokens_literal _ hbody,
      literalToken, if_pos hlong]
    simp [tokenAt]
  | emptyLiteral => exact tokens_literal start List.not_mem_nil rest
  | @openLiteral body hbody =>
    rw [List.append_nil, tokens_cons, step, begin_quote, List.nil_append]
    have hread := tokens_literal_append (start + quoteMark.utf8Size) start [quoteMark] hbody []
    rw [List.append_nil] at hread
    rw [hread]
    simp [tokens, finish, openToken, tokenAt, Nat.add_assoc]
  | comma | star | equals =>
    rw [List.singleton_append, tokens_cons, step, begin_mark _ (by decide) (by decide) (by decide)]
    rfl
  | @stray c rest hb hl hc =>
    obtain ⟨hq, hcomma, hstar, hequals⟩ : c ≠ quoteMark ∧ c ≠ ',' ∧ c ≠ '*' ∧ c ≠ '=' := by
      simpa using hc
    rw [List.singleton_append, tokens_cons, step, begin_mark _ hb hl hq, markToken, if_neg hcomma,
      if_neg hstar, if_neg hequals]
    simp [tokenAt]

/-- A blank between tokens is passed over. -/
theorem tokens_blank (start : Nat) (hc : Text.isBlank c = true) (cs : List Char) :
    tokens start .idle (c :: cs) = tokens (start + c.utf8Size) .idle cs := by
  rw [tokens_cons, step, begin_blank _ hc, List.nil_append]

/-- Only the tokens that a text is read as tile it. -/
theorem Tiles.tokens_eq {start : Nat} {cs : List Char} {ts : List Token} (h : Tiles start cs ts) :
    tokens start .idle cs = ts := by
  induction h with
  | nil => rfl
  | blank hc _ ih => rw [tokens_blank _ hc, ih]
  | token hlex _ ih => rw [hlex.tokens_eq, ih]

/-- No tokens tile an empty text. -/
theorem Tiles.ne_nil {start : Nat} {cs : List Char} {t : Token} {ts : List Token}
    (h : Tiles start cs (t :: ts)) : cs ≠ [] := by
  rintro rfl
  exact List.cons_ne_nil _ _ h.tokens_eq.symm

end Scan

/-- **The tokens of a text are those that tile it.** -/
theorem Token.scan_eq_iff {text : String} {ts : List Token} :
    Token.scan text = ts ↔ Tiles 0 text.toList ts :=
  ⟨fun h => h ▸ tokens_tiles 0 text.toList, fun h => h.tokens_eq⟩

/-! ## Tokens without their places -/

/-- The token without its place. -/
def Token.unplaced (t : Token) : Token := { t with span := ⟨0, 0⟩ }

@[simp] theorem Token.kind_unplaced (t : Token) : t.unplaced.kind = t.kind := rfl

@[simp] theorem Token.text_unplaced (t : Token) : t.unplaced.text = t.text := rfl

@[simp] theorem Token.errors_unplaced (t : Token) : t.unplaced.errors = t.errors := rfl

namespace Scan

/-- A text that is moved is tiled by the same tokens, apart from their places. -/
theorem Tiles.move {start : Nat} {cs : List Char} {ts : List Token} (h : Tiles start cs ts)
    (start' : Nat) : ∃ us, Tiles start' cs us ∧ us.map Token.unplaced = ts.map Token.unplaced := by
  induction h generalizing start' with
  | nil => exact ⟨[], .nil, rfl⟩
  | blank hc _ ih =>
    obtain ⟨us, hus, heq⟩ := ih (start' + Char.utf8Size _)
    exact ⟨us, .blank hc hus, heq⟩
  | token hlex _ ih =>
    obtain ⟨us, hus, heq⟩ := ih (start' + Text.byteSize _)
    exact ⟨_, .token hlex hus, congrArg (_ :: ·) heq⟩

/-- The tokens of some characters, without their places. -/
def lexemes (cs : List Char) : List Token := (tokens 0 .idle cs).map Token.unplaced

/-- The tokens of a text are the same at any place, apart from their places. -/
theorem map_unplaced_tokens (start : Nat) (cs : List Char) :
    (tokens start .idle cs).map Token.unplaced = lexemes cs := by
  obtain ⟨us, hus, heq⟩ := (tokens_tiles start cs).move 0
  rw [lexemes, hus.tokens_eq]
  exact heq.symm

@[simp] theorem lexemes_nil : lexemes [] = [] := rfl

/-- Blanks between tokens are dropped. -/
theorem lexemes_blank (hc : Text.isBlank c = true) (cs : List Char) :
    lexemes (c :: cs) = lexemes cs := by
  rw [lexemes, tokens_blank 0 hc, map_unplaced_tokens]

/-- What the lexical grammar calls a token is read as that token. -/
theorem Lexeme.lexemes_eq {kind : TokenKind} {cs rest : List Char} {errors : List String}
    (h : Lexeme kind cs errors rest) :
    lexemes (cs ++ rest) = ⟨kind, String.ofList cs, ⟨0, 0⟩, errors⟩ :: lexemes rest := by
  rw [lexemes, h.tokens_eq, List.map_cons, map_unplaced_tokens]
  rfl

end Scan

end FeedQuery
