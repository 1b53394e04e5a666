import FeedQuery.Proofs.Compiled
import FeedQuery.Proofs.Token.Cover
import FeedQuery.Token

/-!
# Carets below tokens

The tokens of the tree of a text stand in the text where they say (`Compiled.exists_between`): the
messages that a parse adds move no token. So the carets of a message are below the characters of the
token that carries it, one for each (`Diagnostic.renderAll_ofText`).
-/

namespace FeedQuery

open FeedQuery.Derivation

/-- The token stands in the text, between these characters. -/
structure Token.StandsBetween (text before after : List Char) (t : Token) : Prop where
  text_eq : text = before ++ t.text.toList ++ after
  span_eq : t.span = ⟨Text.byteSize before, Text.byteSize (before ++ t.text.toList)⟩
  ne_nil : t.text.toList ≠ []

/-- Each token that is read from a text stands in it. -/
theorem Token.exists_between {text : String} {t : Token} (ht : t ∈ Token.scan text) :
    ∃ before after, t.StandsBetween text.toList before after := by
  have htiles := Scan.tokens_tiles 0 text.toList
  obtain ⟨before, after, htext, hread⟩ := htiles.exists_readBetween rfl (Scan.seam_nil _) t ht
  exact ⟨before, after, htext, congr (congrArg Span.mk hread.start) hread.stop, hread.lexeme.ne_nil⟩

/-- Messages do not move a token. -/
theorem Token.StandsBetween.extendsTo {text before after : List Char} {t t' : Token}
    (h : t.StandsBetween text before after) (ht : t.ExtendsTo t') :
    t'.StandsBetween text before after where
  text_eq := ht.text ▸ h.text_eq
  span_eq := by rw [ht.span, ht.text, h.span_eq]
  ne_nil := ht.text ▸ h.ne_nil

namespace Compiled

variable {text : String} {c : Compiled}

/-- All that is wrong with a text is said in its tree. -/
theorem diagnostics_eq (h : ofText text = .ok c) : c.diagnostics = c.tree.diagnostics := by
  obtain ⟨children, late, -, rfl⟩ := exists_derivation h
  rfl

/-- Each token in the tree of a text stands in the text. -/
theorem exists_between (h : ofText text = .ok c) {t : Token} (ht : t ∈ c.tree.leaves) :
    ∃ before after, t.StandsBetween text.toList before after := by
  obtain ⟨children, late, hfile, rfl⟩ := exists_derivation h
  obtain ⟨u, hu, hut⟩ := hfile.extends.exists_of_mem ht
  obtain ⟨before, after, hstands⟩ := Token.exists_between hu
  exact ⟨before, after, hstands.extendsTo hut⟩

end Compiled

namespace Diagnostic

/-- A message, the text, and carets from a column on. -/
def lines (text message : String) (column count : Nat) : String :=
  Text.line ("error: " ++ message) ++ Text.line ("  | " ++ text) ++
    Text.line ("  | " ++ Text.copies column ' ' ++ Text.copies count '^')

/-- A diagnostic is shown with its carets. -/
theorem render_eq (text : String) (d : Diagnostic) :
    d.render text = lines text d.message (carets text.toList d.span).1
      (carets text.toList d.span).2 := rfl

/-- The carets of a token are below it. -/
theorem carets_token {text before after : List Char} {t : Token}
    (h : t.StandsBetween text before after) :
    carets text (some t.span) = (before.length, t.text.toList.length) := by
  have hcolumn : Text.takeBytes (Text.byteSize before) text = before := by
    rw [h.text_eq, List.append_assoc]
    exact Text.takeBytes_append ..
  have hslice : Text.sliceBytes? (Text.byteSize before)
      (Text.byteSize (before ++ t.text.toList)) text = some t.text.toList := by
    rw [h.text_eq]
    exact Text.sliceBytes?_append ..
  have hcount : 1 ≤ t.text.toList.length := List.length_pos_iff.2 h.ne_nil
  rw [carets, h.span_eq, hcolumn, hslice, Option.map_some, Option.getD_some,
    Nat.max_eq_right hcount]

/-- How a diagnostic of a compiled text is shown: with as many carets as its token has characters,
behind as many spaces as there are characters before the token, or, where it is about the end of the
text, with one caret behind the text. -/
inductive Shown (text : String) (tree : Tree) : Diagnostic → String → Prop where
  | token {t : Token} {message : String} {before after : List Char} :
      t ∈ tree.leaves → message ∈ t.errors → t.StandsBetween text.toList before after →
      Shown text tree ⟨message, some t.span⟩
        (lines text message before.length t.text.toList.length)
  | ending {message : String} : message ∈ tree.nodeErrors →
      Shown text tree ⟨message, none⟩ (lines text message text.toList.length 1)

/-- **Carets are below the tokens that they are about.** All that is wrong with a text is shown in
order, each message with the text and with carets below the characters of the token that carries it,
which stands in the text between whole characters; a message about the end of the text has one caret
behind it. -/
theorem renderAll_ofText (text : String) : ∃ c pieces, Compiled.ofText text = .ok c ∧
    List.Forall₂ (Shown text c.tree) c.diagnostics pieces ∧
    renderAll text c.diagnostics = String.join pieces := by
  obtain ⟨c, hc⟩ := Compiled.exists_ofText text
  refine ⟨c, c.diagnostics.map (render text), hc, ?_, rfl⟩
  rw [List.forall₂_map_right_iff, List.forall₂_same, Compiled.diagnostics_eq hc]
  intro d hd
  rw [render_eq]
  obtain hd | hd := List.mem_append.1 hd
  · obtain ⟨t, ht, hd⟩ := List.mem_flatMap.1 hd
    obtain ⟨message, hmessage, rfl⟩ := List.mem_map.1 hd
    obtain ⟨before, after, hstands⟩ := Compiled.exists_between hc ht
    rw [carets_token hstands]
    exact .token ht hmessage hstands
  · obtain ⟨message, hmessage, rfl⟩ := List.mem_map.1 hd
    exact .ending hmessage

end Diagnostic

end FeedQuery
