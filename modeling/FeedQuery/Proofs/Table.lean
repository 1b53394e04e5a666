import FeedQuery.Proofs.Row
import FeedQuery.Table
import Mathlib.Data.List.Forall2

/-!
# Tables of records

The columns of a table without asked fields are the columns of the records, each at its first
occurrence (`Table.distinct_eq_eraseDups`). Its rows pick these columns by name, and a name stands
for its column unless it holds a dot; so each row holds the cells of its record exactly when no
column of any record holds a dot (`Table.ofRecords_rows_iff`). The columns that asked fields stand
for hold no dot, so the rows of a table of asked fields always hold the cells of their records
(`Table.ofRecords_asked`), and it shows what the table of all columns shows (`Table.cell_narrowed`).
-/

namespace FeedQuery.Table

/-! ## Distinct names -/

/-- The texts not seen yet are kept once each. -/
theorem distinctFrom_eq_eraseDups (seen texts : List String) :
    distinctFrom seen texts = (texts.filter fun s => !seen.contains s).eraseDups := by
  induction texts generalizing seen with
  | nil => rfl
  | cons s texts ih =>
    rw [distinctFrom, List.filter_cons]
    cases hs : seen.contains s with
    | true => exact ih seen
    | false =>
      have hfilter : (texts.filter fun t => !(s :: seen).contains t) =
          (texts.filter fun t => !seen.contains t).filter fun t => !t == s := by
        rw [List.filter_filter]
        refine List.filter_congr fun t _ => ?_
        rw [List.contains_cons, Bool.not_or]
      rw [if_neg (by decide), if_pos (by decide), ih, hfilter, List.eraseDups_cons]

/-- Each name stands at its first occurrence. -/
theorem distinct_eq_eraseDups (texts : List String) : distinct texts = texts.eraseDups := by
  have hall : (texts.filter fun s => !([] : List String).contains s) = texts :=
    List.filter_eq_self.2 fun s _ => rfl
  rw [distinct, distinctFrom_eq_eraseDups, hall]

/-- No text is lost. -/
theorem mem_distinct {texts : List String} {s : String} : s ∈ distinct texts ↔ s ∈ texts := by
  rw [distinct_eq_eraseDups, List.mem_eraseDups]

/-- No text is kept twice, and none that has been seen. -/
theorem nodup_distinctFrom (seen texts : List String) :
    (distinctFrom seen texts).Nodup ∧ ∀ s ∈ distinctFrom seen texts, s ∉ seen := by
  induction texts generalizing seen with
  | nil => exact ⟨.nil, List.forall_mem_nil _⟩
  | cons s texts ih =>
    rw [distinctFrom]
    split
    case isTrue => exact ih seen
    case isFalse hs =>
      have ⟨hnodup, hnew⟩ := ih (s :: seen)
      refine ⟨List.nodup_cons.2 ⟨fun hmem => hnew s hmem (.head _), hnodup⟩, ?_⟩
      refine List.forall_mem_cons.2 ⟨by simpa using hs, fun t ht hseen => ?_⟩
      exact hnew t ht (.tail _ hseen)

/-- No name stands twice. -/
theorem nodup_distinct (texts : List String) : (distinct texts).Nodup :=
  (nodup_distinctFrom [] texts).1

/-! ## Tables without asked fields -/

/-- Without fields asked for, the columns are those of the rows. -/
theorem mem_columns_ofRecords {policy : ArrayPolicy} {records : List Json.Value} {c : String} :
    c ∈ (ofRecords policy [] records).columns ↔
      ∃ row ∈ records.map (Row.flatten policy), c ∈ row.keys :=
  mem_distinct.trans List.mem_flatMap

/-- The columns of a table without fields asked for are in lower case. -/
theorem columns_isLower {policy : ArrayPolicy} {records : List Json.Value} :
    ∀ c ∈ (ofRecords policy [] records).columns, IsLower c := by
  intro c hc
  obtain ⟨row, hrow, hmem⟩ := mem_columns_ofRecords.1 hc
  obtain ⟨record, -, rfl⟩ := List.mem_map.1 hrow
  exact Row.flatten_isLower policy record c hmem

/-- **The table of records without asked fields.** Its columns are those of the records in the order
of their first occurrence, and it has a row for each record. The rows hold the cells of the records
under these columns, with the empty text where there is no cell, exactly when no column of a record
holds a dot. -/
theorem ofRecords_rows_iff (policy : ArrayPolicy) (records : List Json.Value) :
    (ofRecords policy [] records).columns =
        ((records.map (Row.flatten policy)).flatMap Json.Members.keys).eraseDups ∧
      (ofRecords policy [] records).columns.Nodup ∧
      (ofRecords policy [] records).rows.length = records.length ∧
      ((ofRecords policy [] records).rows = (records.map (Row.flatten policy)).map (fun row =>
          (ofRecords policy [] records).columns.map fun c => (c, row.cell c)) ↔
        ∀ row ∈ records.map (Row.flatten policy), ∀ c ∈ row.keys, '.' ∉ c.toList) := by
  have hcolumns : (ofRecords policy [] records).columns =
      distinct ((records.map (Row.flatten policy)).flatMap Json.Members.keys) := rfl
  have hnodup : (ofRecords policy [] records).columns.Nodup := nodup_distinct _
  refine ⟨by rw [hcolumns, distinct_eq_eraseDups], hnodup, by simp [ofRecords], ?_, ?_⟩
  · intro hrows row hrow c hc hdot
    -- the row of a record is made of names without dots, and it would hold the column
    have hproject : row.project (ofRecords policy [] records).columns =
        (ofRecords policy [] records).columns.map fun c => (c, row.cell c) :=
      List.map_inj_left.1 hrows row hrow
    have hkey : c ∈ (row.project (ofRecords policy [] records).columns).keys := by
      rw [hproject, Json.Members.keys, List.map_map]
      exact List.mem_map.2 ⟨c, mem_columns_ofRecords.2 ⟨row, hrow, hc⟩, rfl⟩
    obtain ⟨f, -, rfl⟩ := Row.keys_project_subset row _ c hkey
    exact dot_not_mem_normalizeField f hdot
  · intro hdots
    have hself : ∀ c ∈ (ofRecords policy [] records).columns, normalizeField c = c := by
      intro c hc
      obtain ⟨row, hrow, hmem⟩ := mem_columns_ofRecords.1 hc
      exact (normalizeField_eq_self_iff (columns_isLower c hc)).2 (hdots row hrow c hmem)
    exact List.map_congr_left fun row _ => Row.project_eq_map hnodup hself row

/-- A column with a dot is in no row, and its cell is lost. -/
theorem ofRecords_dotted :
    (Row.flatten .skip (.obj [("a.b", .int 1)])).get? "a.b" = some (.int 1) ∧
      (ofRecords .skip [] [.obj [("a.b", .int 1)]]).columns = ["a.b"] ∧
      (ofRecords .skip [] [.obj [("a.b", .int 1)]]).rows = [[("a_b", .str "")]] := by
  refine ⟨rfl, rfl, rfl⟩

/-! ## Tables of asked fields -/

/-- The names of the columns are not changed when the rows are picked by them. -/
theorem normalizeField_column {policy : ArrayPolicy} {field : String} {fields : List String}
    {records : List Json.Value} : ∀ c ∈ (ofRecords policy (field :: fields) records).columns,
      normalizeField c = c := by
  intro c hc
  obtain ⟨f, -, rfl⟩ := List.mem_map.1 (mem_distinct.1 hc)
  exact normalizeField_normalizeField f

/-- The rows hold the cells of the records under the columns. -/
theorem rows_ofRecords_cons (policy : ArrayPolicy) (field : String) (fields : List String)
    (records : List Json.Value) : (ofRecords policy (field :: fields) records).rows =
      records.map fun record => (ofRecords policy (field :: fields) records).columns.map
        fun c => (c, (Row.flatten policy record).cell c) := by
  have hnodup : (ofRecords policy (field :: fields) records).columns.Nodup := nodup_distinct _
  refine (List.map_map ..).trans (List.map_congr_left fun record _ => ?_)
  exact Row.project_eq_map hnodup normalizeField_column (Row.flatten policy record)

/-- **The table of asked fields.** Its columns are those that the fields stand for, each at its
first occurrence. It has a row for each record, in order, and every row has just these columns, in
order. A column holds the cell of the record where there is one and the empty text where there is
none, and that is what the table shows. -/
theorem ofRecords_asked (policy : ArrayPolicy) (field : String) (fields : List String)
    (records : List Json.Value) :
    let table := ofRecords policy (field :: fields) records
    let cellOf (c : String) (record : Json.Value) : Json.Value :=
      ((Row.flatten policy record).get? c).getD (.str "")
    table.columns = ((field :: fields).map normalizeField).eraseDups ∧
      List.Forall₂ (fun record row => row.keys = table.columns ∧
        ∀ c ∈ table.columns, row.get? c = some (cellOf c record)) records table.rows ∧
      ∀ i, ∀ c ∈ table.columns,
        table.cell i c = (records[i]?.map fun record => cellText (cellOf c record)).getD "" := by
  intro table cellOf
  have hcolumns : table.columns = distinct ((field :: fields).map normalizeField) := rfl
  have hrows : table.rows = records.map fun record => table.columns.map
      fun c => (c, cellOf c record) := rows_ofRecords_cons policy field fields records
  have hget {c : String} (hc : c ∈ table.columns) (record : Json.Value) :
      Json.Members.get? (table.columns.map fun c => (c, cellOf c record)) c =
        some (cellOf c record) := Json.Members.get?_map hc (cellOf · record)
  refine ⟨hcolumns.trans (distinct_eq_eraseDups _), ?_, fun i c hc => ?_⟩
  · rw [hrows, List.forall₂_map_right_iff, List.forall₂_same]
    intro record _
    exact ⟨Json.Members.keys_map .., fun c hc => hget hc record⟩
  · rw [cell, hrows, List.getElem?_map, Option.map_map]
    have hshown (record : Json.Value) :
        shown (table.columns.map fun c => (c, cellOf c record)) c = cellText (cellOf c record) := by
      rw [shown, hget hc]
      rfl
    exact congrArg (fun f => (records[i]?.map f).getD "") (funext hshown)

/-! ## Tables of fewer columns -/

/-- A row that is picked by columns shows the cells under the names that the columns stand for. -/
theorem shown_project (row : Row) (columns : List String) (c : String) :
    shown (row.project columns) c =
      if c ∈ columns.map normalizeField then cellText (row.cell c) else "" := by
  rw [shown, Row.get?_project]
  split <;> rfl

/-- What a table of records shows is in the records, under the names that its columns stand for. -/
theorem cell_ofRecords (policy : ArrayPolicy) (fields : List String) (records : List Json.Value)
    (i : Nat) (c : String) : (ofRecords policy fields records).cell i c =
      (records[i]?.map fun record =>
        if c ∈ (ofRecords policy fields records).columns.map normalizeField then
          cellText ((Row.flatten policy record).cell c) else "").getD "" := by
  have hrows : (ofRecords policy fields records).rows = records.map fun record =>
      (Row.flatten policy record).project (ofRecords policy fields records).columns :=
    List.map_map ..
  rw [cell, hrows, List.getElem?_map, Option.map_map]
  exact congrArg (fun f => (records[i]?.map f).getD "")
    (funext fun record => shown_project (Row.flatten policy record) _ c)

/-- **Asking for fields changes no cell.** Under each of its columns, a table of asked fields shows
in each row what the table of all columns shows there, whether or not it has that column. -/
theorem cell_narrowed (policy : ArrayPolicy) (field : String) (fields : List String)
    (records : List Json.Value) (i : Nat) :
    ∀ c ∈ (ofRecords policy (field :: fields) records).columns,
      (ofRecords policy (field :: fields) records).cell i c =
        (ofRecords policy [] records).cell i c := by
  intro c hc
  have hself : normalizeField c = c := normalizeField_column c hc
  have hasked : c ∈ (ofRecords policy (field :: fields) records).columns.map normalizeField :=
    List.mem_map.2 ⟨c, hc, hself⟩
  rw [cell_ofRecords, cell_ofRecords]
  refine congrArg (Option.getD · "") (Option.map_congr fun record hrecord => ?_)
  rw [if_pos hasked]
  split
  case isTrue => rfl
  case isFalse hall =>
    -- a column of the record would stand for itself in the table of all columns
    have hmissing : c ∉ (Row.flatten policy record).keys := by
      intro hkey
      refine hall (List.mem_map.2 ⟨c, mem_columns_ofRecords.2 ⟨_, ?_, hkey⟩, hself⟩)
      exact List.mem_map_of_mem (List.mem_of_getElem? hrecord)
    rw [Row.cell_of_not_mem hmissing]
    rfl

/-- The column `a_b` of the second record is also what the column `a.b` of the first stands for. -/
theorem cell_narrowed_dotted :
    "a_b" ∈ (ofRecords .skip ["A.b"] [.obj [("a.b", .int 1)], .obj [("a_b", .int 2)]]).columns ∧
    (ofRecords .skip ["A.b"] [.obj [("a.b", .int 1)], .obj [("a_b", .int 2)]]).cell 1 "a_b" =
      (ofRecords .skip [] [.obj [("a.b", .int 1)], .obj [("a_b", .int 2)]]).cell 1 "a_b" := by
  have hcolumn : "a_b" ∈
      (ofRecords .skip ["A.b"] [.obj [("a.b", .int 1)], .obj [("a_b", .int 2)]]).columns := by
    decide +kernel
  exact ⟨hcolumn, cell_narrowed .skip "A.b" [] _ 1 "a_b" hcolumn⟩

end FeedQuery.Table
