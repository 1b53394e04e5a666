import FeedQuery.Proofs.Table.Cell
import FeedQuery.Proofs.Text.Casing
import Mathlib.Algebra.Ring.Nat
import Mathlib.Data.List.Forall2
import Mathlib.Data.Option.Basic

/-!
# Tables in columns

Each column of a table is as wide as the widest text in it (`Table.getElem?_widths`). So in every
line of the table the text of a column starts behind the columns before it
(`Table.laidOut_fullLine`), and of the line only blanks at its end are cut (`Table.shows_lineOf`).
The texts of the rule and of the rows hold no line break. The names of the columns may: the table
has just the lines it should have exactly when no name does where it counts
(`Table.render_aligned_iff`).
-/

namespace FeedQuery.Table

open Text

/-! ## Lines in columns -/

/-- Where a column starts: behind the columns before it and what stands between them. -/
def offset (widths : List Nat) (j : Nat) : Nat := ((widths.take j).map (· + 3)).sum

/-- From the start of its column on stands the text, filled up with spaces to the width of the
column, and then what stands between columns, or the end of the line for the last column. -/
def LaidOut (widths : List Nat) (texts : List String) (cs : List Char) : Prop :=
  ∀ j w s, widths[j]? = some w → texts[j]? = some s →
    ∃ rest, cs.drop (offset widths j) = s.toList ++ List.replicate (w - width s) ' ' ++ rest ∧
      if j + 1 < widths.length then separator.toList <+: rest else rest = []

/-- No text is wider than its column. -/
def Fits (widths : List Nat) (texts : List String) : Prop :=
  List.Forall₂ (fun w s => width s ≤ w) widths texts

/-- A line shows texts in columns, up to blanks that are cut at its end. -/
def Shows (widths : List Nat) (texts : List String) (line : String) : Prop :=
  ∃ blanks, (∀ c ∈ blanks, Text.isBlank c = true) ∧ EndsBare line.toList ∧
    LaidOut widths texts (line.toList ++ blanks)

/-- The characters of a line before the blanks at its end are cut. -/
def fullLine (widths : List Nat) (texts : List String) : List Char :=
  separator.toList.intercalate (List.zipWith (fun w s => padChars w s.toList) widths texts)

/-- A line of texts in columns, without its line break. -/
def lineOf (widths : List Nat) (texts : List String) : String :=
  String.ofList (trimEndChars (fullLine widths texts))

/-- A line of a table is its characters and a line break. -/
theorem renderLine_eq (widths : List Nat) (texts : List String) :
    renderLine widths texts = line (lineOf widths texts) := by
  have hfull : (separator.intercalate (List.zipWith pad widths texts)).toList =
      fullLine widths texts := by
    rw [String.toList_intercalate, List.map_zipWith, fullLine]
    simp only [pad, String.toList_ofList]
  rw [renderLine, trimEnd, hfull, lineOf]

/-- The first column stands before the others. -/
theorem fullLine_cons_cons (w w' : Nat) (s s' : String) (widths : List Nat) (texts : List String) :
    fullLine (w :: w' :: widths) (s :: s' :: texts) =
      padChars w s.toList ++ separator.toList ++ fullLine (w' :: widths) (s' :: texts) :=
  List.intercalate_cons_cons

/-- Texts that are no wider than their columns stand in them. -/
theorem laidOut_fullLine {widths : List Nat} {texts : List String} (h : Fits widths texts) :
    LaidOut widths texts (fullLine widths texts) := by
  unfold Fits at h
  induction h with
  | nil => exact nofun
  | @cons w s widths texts hfits hrest ih =>
    cases hrest with
    | nil =>
      rintro (_ | j) _ _ ⟨⟩ ⟨⟩
      refine ⟨[], ?_, rfl⟩
      rw [List.append_nil, fullLine, List.zipWith_cons_cons, List.zipWith_nil_left,
        List.intercalate_singleton]
      rfl
    | @cons w' s' widths texts hfits' hrest =>
      rw [fullLine_cons_cons]
      rintro (_ | j) w₁ s₁ hw hs
      · cases hw
        cases hs
        refine ⟨separator.toList ++ fullLine (w' :: widths) (s' :: texts), ?_, ?_⟩
        · exact List.append_assoc ..
        · rw [if_pos (by simp)]
          exact List.prefix_append ..
      · have hlength : (padChars w s.toList ++ separator.toList).length = w + 3 := by
          have hlen : s.toList.length ≤ w := hfits
          simp [padChars, separator]
          omega
        have hoffset : offset (w :: w' :: widths) (j + 1) =
            (padChars w s.toList ++ separator.toList).length + offset (w' :: widths) j := by
          rw [hlength]
          exact List.sum_cons
        obtain ⟨rest, hdrop, hnext⟩ := ih j w₁ s₁ hw hs
        refine ⟨rest, ?_, by simpa using hnext⟩
        rw [hoffset, List.drop_length_add_append, hdrop]

/-- A line shows texts that fit in their columns. -/
theorem shows_lineOf {widths : List Nat} {texts : List String} (h : Fits widths texts) :
    Shows widths texts (lineOf widths texts) := by
  obtain ⟨blanks, hsplit, hblanks⟩ := exists_trimEndChars_append (fullLine widths texts)
  refine ⟨blanks, hblanks, ?_, ?_⟩
  · rw [lineOf, String.toList_ofList]
    exact endsBare_trimEndChars _
  · rw [lineOf, String.toList_ofList, hsplit]
    exact laidOut_fullLine h

/-! ## Widths -/

section
variable (t : Table)

/-- There stay as many columns when they get wider. -/
theorem length_widen {widths : List Nat} {texts : List String} (h : texts.length = widths.length) :
    (widen widths texts).length = widths.length := by simp [widen, h]

/-- There stay as many columns after all lines. -/
theorem length_foldl_widen {lines : List (List String)} {widths : List Nat}
    (h : ∀ texts ∈ lines, texts.length = widths.length) :
    (lines.foldl widen widths).length = widths.length := by
  induction lines generalizing widths with
  | nil => rfl
  | cons texts lines ih =>
    have ⟨htexts, hlines⟩ := List.forall_mem_cons.1 h
    have hwiden := length_widen htexts
    rw [List.foldl_cons, ih fun texts hmem => (hlines texts hmem).trans hwiden.symm, hwiden]

/-- A column gets as wide as the widest text in it. -/
theorem getElem?_foldl_widen {lines : List (List String)} {widths : List Nat}
    (h : ∀ texts ∈ lines, texts.length = widths.length) (j : Nat) :
    (lines.foldl widen widths)[j]? =
      widths[j]?.map fun w => ((lines.filterMap (·[j]?)).map width).foldl max w := by
  induction lines generalizing widths with
  | nil => simp
  | cons texts lines ih =>
    have ⟨htexts, hlines⟩ := List.forall_mem_cons.1 h
    have hwiden := length_widen htexts
    rw [List.foldl_cons, ih fun texts hmem => (hlines texts hmem).trans hwiden.symm, widen,
      List.getElem?_zipWith]
    cases hj : texts[j]? with
    | none =>
      have hnone : widths[j]? = none := by simpa [← htexts] using hj
      simp [hnone]
    | some s =>
      obtain ⟨w, hw⟩ : ∃ w, widths[j]? = some w := by
        have := (List.getElem?_eq_some_iff.1 hj).1
        exact ⟨_, List.getElem?_eq_getElem (htexts ▸ this)⟩
      simp [hw, hj]

/-- A row has as many texts as the header. -/
theorem length_body : ∀ texts ∈ t.body, texts.length = (t.headers.map width).length := by
  intro texts h
  obtain ⟨row, -, rfl⟩ := List.mem_map.1 h
  simp [headers]

/-- Each column is as wide as the widest text in it. -/
theorem getElem?_widths (j : Nat) :
    t.widths[j]? = (((t.headers :: t.body).filterMap (·[j]?)).map width).max? := by
  rw [widths, getElem?_foldl_widen t.length_body, List.getElem?_map]
  cases hj : t.headers[j]? with
  | none =>
    have hnone : t.body.filterMap (·[j]?) = [] := by
      refine List.filterMap_eq_nil_iff.2 fun texts htexts => List.getElem?_eq_none ?_
      rw [t.length_body texts htexts, List.length_map]
      exact List.getElem?_eq_none_iff.1 hj
    simp [hj, hnone]
  | some s =>
    have hcons : (t.headers :: t.body).filterMap (·[j]?) = s :: t.body.filterMap (·[j]?) :=
      List.filterMap_cons_some hj
    rw [hcons, List.map_cons, List.max?_cons']
    rfl

/-- The header and the rows fit in the columns of the table. -/
theorem fits {texts : List String} (h : texts ∈ t.headers :: t.body) : Fits t.widths texts := by
  have hlength : t.widths.length = texts.length := by
    rw [widths, length_foldl_widen t.length_body]
    obtain rfl | h := List.mem_cons.1 h
    · exact List.length_map _
    · exact (t.length_body texts h).symm
  refine List.forall₂_iff_get.2 ⟨hlength, fun j hj hj' => ?_⟩
  have hmax := t.getElem?_widths j
  rw [List.getElem?_eq_getElem hj, eq_comm, List.max?_eq_some_iff] at hmax
  refine hmax.2 _ (List.mem_map_of_mem (List.mem_filterMap.2 ⟨texts, h, ?_⟩))
  exact List.getElem?_eq_getElem hj'

/-- The rule fits in its columns. -/
theorem fits_rule (widths : List Nat) : Fits widths (rule widths) := by
  rw [Fits, rule, List.forall₂_map_right_iff, List.forall₂_same]
  exact fun w _ => by simp [width, copies]

end

/-! ## Line breaks -/

/-- There is a line break in none of the texts but the last, and in the last one only at its end,
before nothing but blanks. -/
def OneLine (texts : List String) : Prop :=
  (∀ s ∈ texts.dropLast, '\n' ∉ s.toList) ∧ ∀ s ∈ texts.getLast?, '\n' ∉ trimEndChars s.toList

/-- A text that others follow may hold no line break. -/
theorem oneLine_cons_cons {s s' : String} {texts : List String} :
    OneLine (s :: s' :: texts) ↔ '\n' ∉ s.toList ∧ OneLine (s' :: texts) := by
  rw [OneLine, OneLine, List.dropLast_cons_cons, List.getLast?_cons_cons, List.forall_mem_cons,
    and_assoc]

/-- Texts without line breaks are on one line. -/
theorem oneLine_of_forall {texts : List String} (h : ∀ s ∈ texts, '\n' ∉ s.toList) :
    OneLine texts :=
  ⟨fun s hs => h s (List.dropLast_subset _ hs),
    fun s hs hmem => h s (List.mem_of_mem_getLast? hs) (mem_of_mem_trimEndChars hmem)⟩

/-- Capitals neither bring line breaks nor take them away. -/
theorem oneLine_headers (t : Table) : OneLine t.headers ↔ OneLine t.columns := by
  have hupper (s : String) : (upper s).toList = upperChars s.toList := String.toList_ofList
  have hbreak : Text.isBlank '\n' = true := by decide
  simp only [OneLine, headers, ← List.map_dropLast, List.forall_mem_map, List.getLast?_map,
    Option.forall_mem_map, hupper, trimEndChars_upperChars, mem_upperChars_iff hbreak]

/-- Behind a text and a separator, only what is cut from the rest is cut, and nothing but the blank
of the separator when the rest is blank. -/
theorem newline_mem_separated {cs ds : List Char} :
    '\n' ∈ trimEndChars (cs ++ separator.toList ++ ds) ↔
      '\n' ∈ cs ∨ '\n' ∈ trimEndChars ds := by
  by_cases hds : trimEndChars ds = []
  · have hblank : ∀ c ∈ ' ' :: ds, Text.isBlank c = true :=
      List.forall_mem_cons.2 ⟨by decide, List.rdropWhile_eq_nil_iff.1 hds⟩
    have hbar : EndsBare [' ', '|'] := by decide
    have hcut : trimEndChars (cs ++ separator.toList ++ ds) = cs ++ [' ', '|'] := calc
      trimEndChars (cs ++ separator.toList ++ ds) =
          trimEndChars (cs ++ [' ', '|'] ++ ' ' :: ds) := by simp [separator]
      _ = trimEndChars (cs ++ [' ', '|']) := trimEndChars_append_of_blank hblank
      _ = cs ++ [' ', '|'] := trimEndChars_append_of_bare hbar (List.cons_ne_nil _ _)
    rw [hcut, hds]
    simp
  · rw [trimEndChars_append hds]
    simp [separator]

/-- A line of texts in columns is one line when the texts are. -/
theorem newline_not_mem_lineOf_iff {widths : List Nat} {texts : List String}
    (h : Fits widths texts) : '\n' ∉ (lineOf widths texts).toList ↔ OneLine texts := by
  rw [lineOf, String.toList_ofList]
  unfold Fits at h
  induction h with
  | nil => simp [fullLine, OneLine, trimEndChars, dropEndWhile]
  | @cons w s widths texts _ hrest ih =>
    have hpad : ∀ c ∈ List.replicate (w - s.toList.length) ' ', Text.isBlank c = true := by
      intro c hc
      rw [(List.mem_replicate.1 hc).2]
      decide
    cases hrest with
    | nil =>
      have hfull : fullLine [w] [s] = padChars w s.toList := List.intercalate_singleton
      rw [hfull, padChars, trimEndChars_append_of_blank hpad]
      simp [OneLine]
    | cons =>
      have hmem : '\n' ∈ padChars w s.toList ↔ '\n' ∈ s.toList := by simp [padChars]
      rw [fullLine_cons_cons, newline_mem_separated, not_or, oneLine_cons_cons, hmem, ih]

/-- A cell holds no line break. -/
theorem newline_not_mem_fit (s : String) : '\n' ∉ (fit s).toList := by
  rw [fit, String.toList_ofList]
  exact fun h => absurd ((flat_fitChars _).spacing.space _ h (by decide)) (by decide)

/-- The rule is on one line. -/
theorem oneLine_rule (widths : List Nat) : OneLine (rule widths) := by
  refine oneLine_of_forall fun s hs => ?_
  obtain ⟨w, -, rfl⟩ := List.mem_map.1 hs
  simp [copies]

/-- The rows are on one line each. -/
theorem oneLine_body (t : Table) : ∀ texts ∈ t.body, OneLine texts := by
  intro texts htexts
  obtain ⟨row, -, rfl⟩ := List.mem_map.1 htexts
  refine oneLine_of_forall fun s hs => ?_
  obtain ⟨column, -, rfl⟩ := List.mem_map.1 hs
  exact newline_not_mem_fit _

/-! ## The lines of a table -/

/-- The number of rows in words. -/
def counted (n : Nat) : String :=
  let ending := if n = 1 then "" else "s"
  s!"({n} row{ending})"

/-- The last line is the number of rows and a line break. -/
theorem countLine_eq (n : Nat) : countLine n = line (counted n) := rfl

/-- The number of rows is on one line. -/
theorem newline_not_mem_counted (n : Nat) : '\n' ∉ (counted n).toList := by
  have hdigits : '\n' ∉ Nat.toDigits 10 n := fun h =>
    absurd (Nat.isDigit_of_mem_toDigits (by decide) (by decide) h) (by decide)
  unfold counted
  split <;> simp [hdigits] <;> decide

/-- The lines that show a table, without their line breaks. -/
def linesOf (t : Table) : List String :=
  lineOf t.widths t.headers :: lineOf t.widths (rule t.widths) ::
    t.body.map (lineOf t.widths) ++ [counted t.size]

/-- A table with columns and rows is shown by its lines. -/
theorem render_eq_join {t : Table} (hrows : t.rows ≠ []) (hcolumns : t.columns ≠ []) :
    t.render = String.join (t.linesOf.map line) := by
  have hblank : t.isBlank = false := by simp [isBlank, hrows, hcolumns]
  have hbody : t.body.map (renderLine t.widths) = (t.body.map (lineOf t.widths)).map line := by
    rw [List.map_map]
    exact List.map_congr_left fun texts _ => renderLine_eq t.widths texts
  rw [render, hblank, linesOf]
  simp [renderLine_eq, countLine_eq, hbody, String.append_assoc]

/-- The lines of a table hold no line break, if the names of its columns are on one line. -/
theorem newline_not_mem_linesOf {t : Table} (h : OneLine t.columns) :
    ∀ s ∈ t.linesOf, '\n' ∉ s.toList := by
  intro s hs
  obtain hs | hs := List.mem_append.1 hs
  · obtain rfl | hs := List.mem_cons.1 hs
    · exact (newline_not_mem_lineOf_iff (t.fits (.head _))).2 (t.oneLine_headers.2 h)
    obtain rfl | hs := List.mem_cons.1 hs
    · exact (newline_not_mem_lineOf_iff (fits_rule _)).2 (oneLine_rule _)
    obtain ⟨texts, htexts, rfl⟩ := List.mem_map.1 hs
    exact (newline_not_mem_lineOf_iff (t.fits (.tail _ htexts))).2 (t.oneLine_body texts htexts)
  · rw [List.mem_singleton.1 hs]
    exact newline_not_mem_counted _

/-- The line breaks of lines are those behind them and those in them. -/
theorem count_newline_join (texts : List String) :
    (String.join (texts.map line)).toList.count '\n' =
      texts.length + (texts.map (·.toList.count '\n')).sum := by
  induction texts with
  | nil => rfl
  | cons s texts ih =>
    rw [List.map_cons, String.join_cons, String.toList_append, List.count_append, ih]
    simp [line]
    omega

/-- A text that is made of lines has a line break for each of them exactly when they hold none. -/
theorem count_newline_join_eq_length_iff (texts : List String) :
    (String.join (texts.map line)).toList.count '\n' = texts.length ↔
      ∀ s ∈ texts, '\n' ∉ s.toList := by
  rw [count_newline_join, Nat.add_eq_left, List.sum_eq_zero_iff_forall_eq_nat, List.forall_mem_map]
  simp only [List.count_eq_zero]

/-- The text is made of a header, a rule, a line for each row in order and the number of rows, each
on one line, and the texts stand in the columns of the table. -/
def Aligned (t : Table) (text : String) : Prop :=
  ∃ header ruled rows,
    text = String.join ((header :: ruled :: rows ++ [counted t.size]).map line) ∧
    (∀ s ∈ header :: ruled :: rows ++ [counted t.size], '\n' ∉ s.toList) ∧
    Shows t.widths t.headers header ∧ Shows t.widths (rule t.widths) ruled ∧
    List.Forall₂ (Shows t.widths) t.body rows

/-- There is a line for each row, and there are three others. -/
theorem Aligned.count_newline {t : Table} {text : String} (h : Aligned t text) :
    text.toList.count '\n' = t.rows.length + 3 := by
  obtain ⟨header, ruled, rows, rfl, hlines, -, -, hrows⟩ := h
  have hlength : rows.length = t.rows.length := hrows.length_eq.symm.trans (List.length_map _)
  rw [(count_newline_join_eq_length_iff _).2 hlines]
  simp [hlength]

/-- **Tables are aligned.** Each column is as wide as the widest of its texts. The table is shown by
a header, a rule, a line for each row and the number of rows, with all texts in their columns,
exactly when the names of the columns are one line: when none of them holds a line break, but for
those at the end of the last one, which are cut with the blanks at the end of the line. -/
theorem render_aligned_iff (t : Table) (hrows : t.rows ≠ []) (hcolumns : t.columns ≠ []) :
    (∀ j : Nat, t.widths[j]? = (((t.headers :: t.body).filterMap (·[j]?)).map width).max?) ∧
      (Aligned t t.render ↔ OneLine t.columns) := by
  have hrender := render_eq_join hrows hcolumns
  refine ⟨t.getElem?_widths, fun haligned => ?_, fun hone => ?_⟩
  · -- there are as many line breaks as lines, so the header holds none
    have hcount : t.render.toList.count '\n' = t.linesOf.length := by
      rw [haligned.count_newline]
      simp [linesOf, body]
    rw [hrender, count_newline_join_eq_length_iff] at hcount
    have hheader := (newline_not_mem_lineOf_iff (t.fits (.head _))).1 (hcount _ (.head _))
    exact t.oneLine_headers.1 hheader
  · refine ⟨_, _, _, hrender, newline_not_mem_linesOf hone, shows_lineOf (t.fits (.head _)),
      shows_lineOf (fits_rule _), ?_⟩
    rw [List.forall₂_map_right_iff, List.forall₂_same]
    exact fun texts htexts => shows_lineOf (t.fits (.tail _ htexts))

/-- The blank cell at the end of the second row is cut with the blank before it. -/
theorem render_aligned_accounts :
    let accounts := ofRecords .skip [] [.obj [("name", .str "Ada"), ("posts", .int 1204)],
      .obj [("name", .str "Grace")]]
    accounts.rows ≠ [] ∧ accounts.columns ≠ [] ∧
      Aligned accounts "NAME  | POSTS\n----- | -----\nAda   | 1204\nGrace |\n(2 rows)\n" := by
  intro accounts
  have hrender : accounts.render =
      "NAME  | POSTS\n----- | -----\nAda   | 1204\nGrace |\n(2 rows)\n" := by decide +kernel
  have hrows : accounts.rows ≠ [] := List.cons_ne_nil _ _
  have hcolumns : accounts.columns ≠ [] := List.cons_ne_nil _ _
  have hnames : ∀ s ∈ accounts.columns, '\n' ∉ s.toList := by decide +kernel
  rw [← hrender]
  exact ⟨hrows, hcolumns,
    (render_aligned_iff accounts hrows hcolumns).2.2 (oneLine_of_forall hnames)⟩

/-- A line break in a name breaks the header. -/
theorem render_broken_name :
    let table := ofRecords .skip [] [.obj [("a\nb", .int 1)]]
    table.columns = ["a\nb"] ∧ table.rows.length = 1 ∧
      table.render = "A\nB\n---\n1\n(1 row)\n" ∧ ¬Aligned table table.render := by
  intro table
  have hrender : table.render = "A\nB\n---\n1\n(1 row)\n" := by decide +kernel
  refine ⟨by decide +kernel, rfl, hrender, fun haligned => ?_⟩
  have hcount := haligned.count_newline
  rw [hrender] at hcount
  exact absurd hcount (by decide)

end FeedQuery.Table
