import FeedQuery.Proofs.Token.Scan

/-!
# Tokens of texts put together

The tokens of two texts with a blank between them are the tokens of both
(`Token.scan_append_space`), and the tokens of a text stay the same with other blanks between them
(`Token.map_unplaced_scan_write`).
-/

namespace FeedQuery

/-!
## Texts one behind the other

A text and another one behind it, with a blank in between, have the tokens of the first text and
then those of the second, moved by the length of the first text and of the blank
(`Token.scan_append_space`). A blank ends a word of the first text where that text ended it before;
only a literal without an end would go on, and such a literal is a mistake.
-/

open Scan

/-- The token, that many bytes further on in a text. -/
def Token.movedBy (n : Nat) (t : Token) : Token :=
  { t with span := ⟨t.span.start + n, t.span.stop + n⟩ }

@[simp] theorem Token.kind_movedBy (n : Nat) (t : Token) : (t.movedBy n).kind = t.kind := rfl

namespace Scan

/-- A token that is moved stands further on. -/
theorem movedBy_tokenAt (n start : Nat) (kind : TokenKind) (cs : List Char)
    (errors : List String) :
    (tokenAt start kind cs errors).movedBy n = tokenAt (start + n) kind cs errors := by
  simp [tokenAt, Token.movedBy, Nat.add_right_comm]

/-- A text that stands further on is tiled by its tokens, moved as far. -/
theorem Tiles.movedBy {start : Nat} {cs : List Char} {ts : List Token} (h : Tiles start cs ts)
    (n : Nat) : Tiles (start + n) cs (ts.map (Token.movedBy n)) := by
  induction h with
  | nil => exact .nil
  | blank hc _ ih =>
    rw [Nat.add_right_comm] at ih
    exact .blank hc ih
  | token hlex _ ih =>
    rw [Nat.add_right_comm] at ih
    rw [List.map_cons, movedBy_tokenAt]
    exact .token hlex ih

/-- What is no mistake is read as it was when a blank and anything else follow the text. -/
theorem Lexeme.append_blank {kind : TokenKind} {cs rest : List Char} {errors : List String}
    (h : Lexeme kind cs errors rest) (herrors : errors = []) (hb : isWordPart b = false)
    (ds : List Char) : Lexeme kind cs errors (rest ++ b :: ds) := by
  cases h with
  | word hword hrest =>
    refine .word hword ?_
    cases rest with
    | nil => exact apart_cons hb ds
    | cons c rest => exact apart_cons (hrest c rfl) _
  | literal hne hbody => exact .literal hne hbody
  | comma => exact .comma
  | star => exact .star
  | equals => exact .equals
  | emptyLiteral | openLiteral | stray => cases herrors

/-- Tokens without mistakes, and those of a text behind them, tile the two texts with a blank in
between. -/
theorem Tiles.append_blank {start : Nat} {cs ds : List Char} {ts us : List Token}
    (h : Tiles start cs ts) (hts : ∀ t ∈ ts, t.errors = []) (hb : Text.isBlank b = true)
    (hw : isWordPart b = false) (h' : Tiles (start + Text.byteSize cs + b.utf8Size) ds us) :
    Tiles start (cs ++ b :: ds) (ts ++ us) := by
  induction h with
  | nil => exact .blank hb h'
  | blank hc _ ih =>
    rw [Text.byteSize_cons, ← Nat.add_assoc] at h'
    exact .blank hc (ih hts h')
  | token hlex _ ih =>
    have ⟨ht, hts⟩ := List.forall_mem_cons.1 hts
    rw [Text.byteSize_append, ← Nat.add_assoc] at h'
    rw [List.append_assoc]
    exact .token (hlex.append_blank ht hw ds) (ih hts h')

end Scan

/-- **A text behind another one adds its tokens**, moved to where they stand, if nothing is wrong
with the tokens of the first text and a blank separates the two. -/
theorem Token.scan_append_space {text : String} (h : ∀ t ∈ scan text, t.errors = [])
    (suffix : String) : scan (text ++ " " ++ suffix) =
      scan text ++ (scan suffix).map (movedBy (Text.byteSize text.toList + 1)) := by
  rw [scan_eq_iff, String.toList_append, String.toList_append, List.append_assoc]
  have hsuffix : Tiles 0 suffix.toList (scan suffix) := tokens_tiles 0 suffix.toList
  refine (tokens_tiles 0 text.toList).append_blank h (by decide) (by decide) ?_
  have hmoved := hsuffix.movedBy (Text.byteSize text.toList + 1)
  rw [Nat.zero_add] at hmoved ⊢
  exact hmoved

/-!
## Tokens written anew

The tokens of a text can be written with any blanks between them (`Layout.write`), and are read as
they were, apart from their places (`Token.map_unplaced_scan_write`). What follows a token matters
for two kinds of tokens only (`Scan.Lexeme.follow`): a blank ends a word wherever it ended before,
and a literal without an end is the last token, so that nothing is written behind it.
-/

/-- The blanks to write tokens with. -/
structure Layout where
  /-- What stands before the first token. -/
  indent : String
  /-- What stands between the `i`-th token and the next one. -/
  gap : Nat → String
  indent_blank : Text.allBlank indent = true
  gap_blank : ∀ i, Text.allBlank (gap i) = true
  gap_ne : ∀ i, gap i ≠ ""

namespace Layout

/-- The texts of tokens, the first of which is the `i`-th, with gaps between them. -/
def spread (l : Layout) : Nat → List Token → String
  | _, [] => ""
  | _, [t] => t.text
  | i, t :: u :: ts => t.text ++ (l.gap i ++ l.spread (i + 1) (u :: ts))

/-- The texts of tokens in the layout. -/
def write (l : Layout) (ts : List Token) : String := l.indent ++ l.spread 0 ts

/-- A space between any two tokens. -/
def spaced : Layout where
  indent := ""
  gap _ := " "
  indent_blank := rfl
  gap_blank _ := rfl
  gap_ne _ := by decide

instance : Inhabited Layout := ⟨spaced⟩

example : spaced.write (Token.scan "SELECT*FROM'a  b'c,.'d") = "SELECT * FROM 'a  b' c , . 'd" := by
  decide +kernel

end Layout

namespace Scan

/-- No word goes on with a blank. -/
theorem isWordPart_of_isBlank {c : Char} (h : Text.isBlank c = true) : isWordPart c = false := by
  rw [isWordPart, Bool.or_eq_false_iff]
  refine ⟨Bool.eq_false_iff.2 fun hl => ?_, beq_eq_false_iff_ne.2 ?_⟩
  · rw [isBlank_of_isLetter hl] at h
    cases h
  · rintro rfl
    cases h

/-- What the characters of a token are does not depend on what follows, as long as no word goes on
with it; but nothing can follow a token that takes all that is left. -/
theorem Lexeme.follow {kind : TokenKind} {cs rest rest' : List Char} {errors : List String}
    (h : Lexeme kind cs errors rest) (hrest : Apart rest') (hend : rest = [] → rest' = []) :
    Lexeme kind cs errors rest' := by
  cases h with
  | word hword => exact .word hword hrest
  | literal hne hbody => exact .literal hne hbody
  | comma => exact .comma
  | star => exact .star
  | equals => exact .equals
  | emptyLiteral => exact .emptyLiteral
  | openLiteral hbody =>
    obtain rfl := hend rfl
    exact .openLiteral hbody
  | stray hb hl hc => exact .stray hb hl hc

/-- Any number of blanks is dropped. -/
theorem lexemes_blanks {bs : List Char} (h : bs.all Text.isBlank = true) (cs : List Char) :
    lexemes (bs ++ cs) = lexemes cs := by
  induction bs with
  | nil => rfl
  | cons b bs ih =>
    obtain ⟨hb, hbs⟩ : Text.isBlank b = true ∧ bs.all Text.isBlank = true := by simpa using h
    exact (lexemes_blank hb _).trans (ih hbs)

/-- No word goes on with a gap. -/
theorem apart_gap (l : Layout) (i : Nat) (cs : List Char) : Apart ((l.gap i).toList ++ cs) := by
  have hblank : (l.gap i).toList.all Text.isBlank = true := l.gap_blank i
  cases hgap : (l.gap i).toList with
  | nil => exact absurd (String.toList_eq_nil_iff.1 hgap) (l.gap_ne i)
  | cons b bs =>
    have hb : Text.isBlank b = true := by
      rw [hgap, List.all_cons, Bool.and_eq_true] at hblank
      exact hblank.1
    exact apart_cons (isWordPart_of_isBlank hb) _

/-- Tokens that tile some characters are read again from their texts and the gaps. -/
theorem Tiles.lexemes_spread {start : Nat} {cs : List Char} {ts : List Token}
    (h : Tiles start cs ts) (l : Layout) (i : Nat) :
    lexemes (l.spread i ts).toList = ts.map Token.unplaced := by
  induction h generalizing i with
  | nil => rfl
  | blank _ _ ih => exact ih i
  | @token start kind cs rest errors ts hlex hrest ih =>
    cases ts with
    | nil =>
      have h := (hlex.follow apart_nil fun _ => rfl).lexemes_eq
      simpa [Layout.spread, tokenAt, Token.unplaced] using h
    | cons u ts =>
      have hgap : (l.gap i).toList.all Text.isBlank = true := l.gap_blank i
      have hnext := apart_gap l i (l.spread (i + 1) (u :: ts)).toList
      -- a token stands behind this one, which is therefore no literal without an end
      have h := (hlex.follow hnext fun hnil => absurd hnil hrest.ne_nil).lexemes_eq
      rw [lexemes_blanks hgap, ih (i + 1)] at h
      simpa [Layout.spread, tokenAt, Token.unplaced] using h

end Scan

/-- **Tokens are read as they are written, whatever the blanks between them**, apart from their
places. -/
theorem Token.map_unplaced_scan_write (l : Layout) (text : String) :
    (scan (l.write (scan text))).map unplaced = (scan text).map unplaced := by
  have hindent : l.indent.toList.all Text.isBlank = true := l.indent_blank
  have h : Tiles 0 text.toList (scan text) := tokens_tiles 0 text.toList
  calc (scan (l.write (scan text))).map unplaced
      = lexemes (l.indent.toList ++ (l.spread 0 (scan text)).toList) := by
        rw [← String.toList_append]
        rfl
    _ = lexemes (l.spread 0 (scan text)).toList := lexemes_blanks hindent _
    _ = (scan text).map unplaced := h.lexemes_spread l 0

end FeedQuery
