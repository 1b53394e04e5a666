import FeedQuery.Proofs.Text
import FeedQuery.Table

/-!
# Cells

A cell shows the words of a text with one space between them, cut to the characters that fit.
Fitting a cell again changes nothing (`Table.fit_exact`).
-/

namespace FeedQuery.Text

/-!
## Texts with single spaces

`Text.spaced` replaces every run of blanks by one space. The words of a text with one space between
them are the text without the blanks at its ends, and with every run of blanks in it replaced by
one space (`Text.intercalate_wordChars`). The only blanks of such a text are single spaces
(`Text.singlySpaced_spaced`), and in a text of which this holds nothing is replaced
(`Text.SinglySpaced.spaced_eq`).
-/

/-- The text with every run of blanks replaced by one space: the last blank of a run becomes the
space, and those before it are left out. -/
def spaced : List Char → List Char
  | [] => []
  | c :: cs =>
    if isBlank c then
      if cs.head?.any isBlank then spaced cs else ' ' :: spaced cs
    else c :: spaced cs

/-- The only blanks of the text are single spaces. -/
structure SinglySpaced (cs : List Char) : Prop where
  space : ∀ c ∈ cs, isBlank c = true → c = ' '
  single : ¬[' ', ' '] <:+: cs

section
variable {cs ds : List Char} {c : Char}

/-- A character that is not blank stays. -/
theorem spaced_cons (hc : isBlank c = false) : spaced (c :: cs) = c :: spaced cs := by
  simp [spaced, hc]

/-- Something is left of a text that is not empty. -/
theorem spaced_ne_nil (h : cs ≠ []) : spaced cs ≠ [] := by
  induction cs with
  | nil => exact h
  | cons c cs ih =>
    rw [spaced]
    split
    case isTrue =>
      split
      case isTrue hnext => exact ih fun hnil => by simp [hnil] at hnext
      case isFalse => exact List.cons_ne_nil _ _
    case isFalse => exact List.cons_ne_nil _ _

/-- A run of blanks is replaced by one space. -/
theorem spaced_blanks_append (hne : cs ≠ []) (hcs : ∀ c ∈ cs, isBlank c = true)
    (hds : StartsBare ds) : spaced (cs ++ ds) = ' ' :: spaced ds := by
  induction cs with
  | nil => exact absurd rfl hne
  | cons c cs ih =>
    have ⟨hc, hcs⟩ := List.forall_mem_cons.1 hcs
    rw [List.cons_append, spaced, if_pos hc]
    cases cs with
    | nil => rw [List.nil_append, if_neg (Bool.eq_false_iff.1 hds)]
    | cons d cs =>
      have hnext : (d :: cs ++ ds).head?.any isBlank = true := hcs d (.head _)
      rw [if_pos hnext, ih (List.cons_ne_nil _ _) hcs]

/-- A text that starts with no blank still starts with none. -/
theorem startsBare_spaced (h : StartsBare cs) : StartsBare (spaced cs) := by
  cases cs with
  | nil => rfl
  | cons c cs =>
    have hc : isBlank c = false := h
    rw [spaced_cons hc]
    exact hc

/-- A text that ends in no blank still ends in none. -/
theorem endsBare_spaced (h : EndsBare cs) : EndsBare (spaced cs) := by
  have hlast (c : Char) (hc : isBlank c = false) (ds : List Char) :
      ∃ es, spaced (ds ++ [c]) = es ++ [c] := by
    induction ds with
    | nil => exact ⟨[], spaced_cons hc⟩
    | cons d ds ih =>
      obtain ⟨es, hes⟩ := ih
      rw [List.cons_append, spaced, hes]
      split
      case isTrue =>
        split
        case isTrue => exact ⟨es, rfl⟩
        case isFalse => exact ⟨' ' :: es, rfl⟩
      case isFalse => exact ⟨d :: es, rfl⟩
  obtain rfl | ⟨ds, c, rfl⟩ := cs.eq_nil_or_concat'
  · exact nofun
  · have hc : isBlank c = false := by simpa [EndsBare] using h
    obtain ⟨es, hes⟩ := hlast c hc ds
    rw [hes]
    simpa [EndsBare] using hc

/-- Another character can stand before single spaces. -/
theorem SinglySpaced.cons (h : SinglySpaced cs) (hc : isBlank c = false) :
    SinglySpaced (c :: cs) := by
  have hne : ' ' ≠ c := by
    rintro rfl
    exact absurd hc (by decide)
  refine ⟨List.forall_mem_cons.2 ⟨fun hblank => ?_, h.space⟩, fun hin => ?_⟩
  · exact absurd (hc.symm.trans hblank) Bool.false_ne_true
  · obtain hpre | hin := List.infix_cons_iff.1 hin
    · exact hne (List.cons_prefix_cons.1 hpre).1
    · exact h.single hin

/-- A space can stand before single spaces if the text does not start with one. -/
theorem SinglySpaced.cons_space (h : SinglySpaced cs) (hcs : StartsBare cs) :
    SinglySpaced (' ' :: cs) := by
  refine ⟨List.forall_mem_cons.2 ⟨fun _ => rfl, h.space⟩, fun hin => ?_⟩
  obtain hpre | hin := List.infix_cons_iff.1 hin
  · have hspace : StartsBare [' '] := hcs.of_isPrefix (List.cons_prefix_cons.1 hpre).2
    cases hspace
  · exact h.single hin

/-- The only blanks that are left are single spaces. -/
theorem singlySpaced_spaced (cs : List Char) : SinglySpaced (spaced cs) := by
  induction cs with
  | nil => exact ⟨nofun, by decide⟩
  | cons c cs ih =>
    rw [spaced]
    split
    case isTrue =>
      split
      case isTrue => exact ih
      case isFalse hnext => exact ih.cons_space (startsBare_spaced (Bool.eq_false_iff.2 hnext))
    case isFalse hc => exact ih.cons (Bool.eq_false_iff.2 hc)

/-- A part of a text of single spaces is such a text. -/
theorem SinglySpaced.of_isInfix (h : SinglySpaced cs) (hds : ds <:+: cs) : SinglySpaced ds :=
  ⟨fun d hd => h.space d (hds.subset hd), fun hin => h.single (hin.trans hds)⟩

/-- A text of single spaces stays as it is. -/
theorem SinglySpaced.spaced_eq (h : SinglySpaced cs) : spaced cs = cs := by
  induction cs with
  | nil => rfl
  | cons c cs ih =>
    have hrest : spaced cs = cs := ih (h.of_isInfix (List.suffix_cons c cs).isInfix)
    cases hc : isBlank c with
    | false => rw [spaced_cons hc, hrest]
    | true =>
      obtain rfl := h.space c (.head _) hc
      have hnext : ¬cs.head?.any isBlank = true := by
        intro hblank
        cases cs with
        | nil => cases hblank
        | cons d cs =>
          obtain rfl := h.space d (.tail _ (.head _)) hblank
          exact h.single (List.prefix_append [' ', ' '] cs).isInfix
      rw [spaced, if_pos hc, if_neg hnext, hrest]

end

/-! ### Words -/

/-- There is no word in blanks. -/
theorem wordsFrom_eq_nil {cs : List Char} (h : ∀ c ∈ cs, isBlank c = true) :
    wordsFrom [] cs = [] := by
  induction cs with
  | nil => rfl
  | cons c cs ih =>
    have ⟨hc, hcs⟩ := List.forall_mem_cons.1 h
    rw [wordsFrom, if_pos hc]
    exact ih hcs

/-- Blanks before more words are one space. -/
theorem spaced_trimEndChars_cons {c : Char} {cs : List Char} (hc : isBlank c = true)
    (hcs : trimEndChars (trimStartChars cs) ≠ []) :
    spaced (trimEndChars (c :: cs)) = ' ' :: spaced (trimEndChars (trimStartChars cs)) := by
  have hblank : ∀ d ∈ c :: cs.takeWhile isBlank, isBlank d = true :=
    List.forall_mem_cons.2 ⟨hc, fun _ => List.mem_takeWhile_imp⟩
  have hbare : StartsBare (trimEndChars (trimStartChars cs)) :=
    (startsBare_trimStartChars cs).of_isPrefix (trimEndChars_isPrefix _)
  calc
    spaced (trimEndChars (c :: cs)) =
        spaced (trimEndChars (c :: cs.takeWhile isBlank ++ trimStartChars cs)) := by
      rw [trimStartChars, List.cons_append, List.takeWhile_append_dropWhile]
    _ = spaced (c :: cs.takeWhile isBlank ++ trimEndChars (trimStartChars cs)) := by
      rw [trimEndChars_append hcs]
    _ = ' ' :: spaced (trimEndChars (trimStartChars cs)) :=
      spaced_blanks_append (List.cons_ne_nil _ _) hblank hbare

/-- The words of a text with one space between them; where a word is being read, they are what has
been read of it and what comes next in the text. -/
theorem intercalate_wordsFrom (cs : List Char) :
    (∀ run ≠ [], [' '].intercalate (wordsFrom run cs) = run ++ spaced (trimEndChars cs)) ∧
      [' '].intercalate (wordsFrom [] cs) = spaced (trimChars cs) := by
  induction cs with
  | nil =>
    refine ⟨fun run hrun => ?_, rfl⟩
    rw [wordsFrom, if_neg (by simpa using hrun), List.intercalate_singleton]
    exact (List.append_nil run).symm
  | cons c cs ih =>
    obtain ⟨ihrun, ihnil⟩ := ih
    cases hc : isBlank c with
    | false =>
      have hstart : trimChars (c :: cs) = c :: trimEndChars cs := by
        have hbare : StartsBare (c :: cs) := hc
        rw [trimChars, trimStartChars_eq_self hbare, trimEndChars_cons hc]
      have hread (run : List Char) : wordsFrom run (c :: cs) = wordsFrom (run ++ [c]) cs := by
        rw [wordsFrom, if_neg (Bool.eq_false_iff.1 hc)]
      rw [hstart, trimEndChars_cons hc, spaced_cons hc]
      refine ⟨fun run _ => ?_, ?_⟩
      · rw [hread, ihrun _ (by simp), List.append_assoc]
        rfl
      · rw [hread]
        exact ihrun [c] (List.cons_ne_nil _ _)
    | true =>
      have hstart : trimChars (c :: cs) = trimChars cs :=
        congrArg trimEndChars (List.dropWhile_cons_of_pos hc)
      have hnil : wordsFrom [] (c :: cs) = wordsFrom [] cs := by
        rw [wordsFrom, if_pos hc]
        rfl
      rw [hstart, hnil]
      refine ⟨fun run hrun => ?_, ihnil⟩
      rw [wordsFrom, if_pos hc, if_neg (by simpa using hrun)]
      by_cases hcs : trimChars cs = []
      · have hblank := isBlank_of_trimChars_eq_nil hcs
        have hcut : trimEndChars (c :: cs) = [] :=
          List.rdropWhile_eq_nil_iff.2 (List.forall_mem_cons.2 ⟨hc, hblank⟩)
        rw [wordsFrom_eq_nil hblank, List.intercalate_singleton, hcut]
        exact (List.append_nil run).symm
      · rw [spaced_trimEndChars_cons hc hcs]
        cases hwords : wordsFrom [] cs with
        | nil =>
          rw [hwords] at ihnil
          exact absurd ihnil.symm (spaced_ne_nil hcs)
        | cons word words =>
          rw [List.intercalate_cons_cons, ← hwords, ihnil, List.append_assoc]
          rfl

/-- The words of a text with one space between them are the text without the blanks at its ends and
with every run of blanks in it replaced by one space. -/
theorem intercalate_wordChars (cs : List Char) :
    [' '].intercalate (wordChars cs) = spaced (trimChars cs) :=
  (intercalate_wordsFrom cs).2

end FeedQuery.Text

namespace FeedQuery.Table

/-!
## What fits in a cell

A cell shows its text on one line: without the blanks at the ends, and with every run of blanks in
it replaced by one space. Of a text with more characters than fit it shows the first ones and an
ellipsis. Either way the result is a text on one line (`Table.flat_fitChars`) that fits
(`Table.length_fitChars_le`), so that fitting it again changes nothing (`Table.fit_exact`).
-/

open Text

variable {cs : List Char}

/-- A text on one line: without the blanks at its ends, and with every run of blanks in it replaced
by one space. -/
def onOneLine (cs : List Char) : List Char := spaced (trimChars cs)

/-- A cell shows the text on one line, or the start of it and an ellipsis. -/
theorem fitChars_eq (cs : List Char) :
    fitChars cs = if (onOneLine cs).length ≤ maxCell then onOneLine cs
      else (onOneLine cs).take (maxCell - 1) ++ [ellipsis] := by
  rw [fitChars, intercalate_wordChars, ← onOneLine]
  by_cases hlen : (onOneLine cs).length ≤ maxCell
  · rw [if_pos hlen, if_neg (Nat.not_lt.2 hlen)]
  · rw [if_neg hlen, if_pos (Nat.not_le.1 hlen)]

/-- A text that is on one line already. -/
structure Flat (cs : List Char) : Prop where
  spacing : SinglySpaced cs
  starts : StartsBare cs
  ends : EndsBare cs

/-- A text that is put on one line is on one line. -/
theorem flat_onOneLine (cs : List Char) : Flat (onOneLine cs) where
  spacing := singlySpaced_spaced _
  starts :=
    startsBare_spaced ((startsBare_trimStartChars cs).of_isPrefix (trimEndChars_isPrefix _))
  ends := endsBare_spaced (endsBare_trimEndChars _)

/-- A text that is on one line stays as it is. -/
theorem Flat.onOneLine_eq (h : Flat cs) : onOneLine cs = cs := by
  rw [onOneLine, trimChars, trimStartChars_eq_self h.starts, trimEndChars_eq_self_iff.2 h.ends,
    h.spacing.spaced_eq]

/-- The ellipsis is no blank. -/
theorem isBlank_ellipsis : Text.isBlank ellipsis = false := by decide

/-- The first characters of a text on one line are on one line with the ellipsis behind them, also
when they end in a space. -/
theorem Flat.cut (h : Flat cs) (n : Nat) : Flat (cs.take n ++ [ellipsis]) where
  spacing := by
    have htake := h.spacing.of_isInfix (List.take_prefix n cs).isInfix
    refine ⟨fun c hc hblank => ?_, fun hin => ?_⟩
    · obtain hc | hc := List.mem_append.1 hc
      · exact htake.space c hc hblank
      · rw [List.mem_singleton.1 hc, isBlank_ellipsis] at hblank
        cases hblank
    · obtain hsuf | hin := List.infix_concat_iff.1 hin
      · obtain hnil | ⟨ds, hds, -⟩ := List.suffix_concat_iff.1 hsuf
        · cases hnil
        · have hmem : ellipsis ∈ [' ', ' '] := hds ▸ List.mem_append_right ds (.head _)
          exact absurd hmem (by decide)
      · exact htake.single hin
  starts := by
    have htake := h.starts.of_isPrefix (List.take_prefix n cs)
    cases hcs : cs.take n with
    | nil => exact isBlank_ellipsis
    | cons c ds =>
      rw [hcs] at htake
      exact htake
  ends := by simpa [EndsBare] using isBlank_ellipsis

/-- What a cell shows is on one line. -/
theorem flat_fitChars (cs : List Char) : Flat (fitChars cs) := by
  rw [fitChars_eq]
  split
  case isTrue => exact flat_onOneLine cs
  case isFalse => exact (flat_onOneLine cs).cut _

/-- What a cell shows fits. -/
theorem length_fitChars_le (cs : List Char) : (fitChars cs).length ≤ maxCell := by
  rw [fitChars_eq]
  split
  case isTrue h => exact h
  case isFalse h =>
    rw [List.length_append, List.length_take_of_le (by omega)]
    exact Nat.le_refl _

/-- **Cells fit.** A cell shows its text on one line if it has 48 characters at most; otherwise it
shows the first 47 characters of it and an ellipsis. So a cell has 48 characters at most, its only
blanks are single spaces, and fitting it again changes nothing. -/
theorem fit_exact (s : String) :
    (fit s).toList =
        (if (onOneLine s.toList).length ≤ 48 then onOneLine s.toList
          else (onOneLine s.toList).take 47 ++ ['…']) ∧
      (fit s).length ≤ 48 ∧ SinglySpaced (fit s).toList ∧ fit (fit s) = fit s := by
  have hfit (s : String) : (fit s).toList = fitChars s.toList := String.toList_ofList
  have hle := length_fitChars_le s.toList
  have hflat := flat_fitChars s.toList
  refine ⟨(hfit s).trans (fitChars_eq _), ?_, ?_, ?_⟩
  · rw [← String.length_toList, hfit]
    exact hle
  · rw [hfit]
    exact hflat.spacing
  · apply String.toList_inj.1
    rw [hfit, hfit, fitChars_eq, hflat.onOneLine_eq, if_pos hle]

end FeedQuery.Table
