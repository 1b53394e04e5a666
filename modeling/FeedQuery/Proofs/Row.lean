import FeedQuery.Proofs.Json.Members
import FeedQuery.Proofs.Text.Casing
import FeedQuery.Row

/-!
# Columns of rows

The columns of a flattened record are in lower case (`Row.flatten_isLower`), so that a field name
written like a column stands for that column unless it holds a dot (`normalizeField_eq_self_iff`).
Facts about columns go through `Row.gather_keys`: what holds of the column that a value starts from,
and is kept by each step into a value, holds of every column that the value adds.
-/

namespace FeedQuery

/-! ## Field names -/

/-- A text that stays as it is in lower case. -/
def IsLower (s : String) : Prop := ∀ c ∈ s.toList, Text.Settled c

instance : DecidablePred IsLower := fun s => List.decidableBAll _ s.toList

/-- A text in lower case stays as it is. -/
theorem isLower_lower (s : String) : IsLower (Text.lower s) := by
  intro c hc
  rw [Text.lower, String.toList_ofList] at hc
  exact Text.settled_of_mem_lowerFrom hc

/-- A digit is settled. -/
theorem settled_of_isDigit {c : Char} (h : c.isDigit = true) : Text.Settled c := by
  have hbounds : 0x30 ≤ c.toNat ∧ c.toNat ≤ 0x39 := by
    simpa [Char.isDigit, UInt32.le_iff_toNat_le] using h
  have hascii : c.toNat < 0x80 := by omega
  exact @Text.forall_ascii (fun c => c.isDigit = true → Text.Settled c) (by decide +kernel) c
    hascii h

/-- Digits are in lower case. -/
theorem isLower_toString (n : Nat) : IsLower (toString n) := by
  intro c hc
  have hmem : c ∈ Nat.toDigits 10 n := by simpa [Nat.repr] using hc
  exact settled_of_isDigit (Nat.isDigit_of_mem_toDigits (by decide) (by decide) hmem)

/-- A name below another one is in lower case if both are. -/
theorem IsLower.under {path part : String} (h : IsLower path) (h' : IsLower part) :
    IsLower (Row.under path part) := by
  intro c hc
  rw [Row.under, String.toList_append, String.toList_append] at hc
  obtain hc | hc := List.mem_append.1 hc
  · obtain hc | hc := List.mem_append.1 hc
    · exact h c hc
    · obtain rfl : c = '_' := by simpa using hc
      decide
  · exact h' c hc

/-- No dot is left in a column that a field name stands for. -/
theorem dot_not_mem_normalizeField (name : String) : '.' ∉ (normalizeField name).toList := by
  rw [normalizeField, String.toList_ofList]
  intro h
  obtain ⟨c, -, hc⟩ := List.mem_map.1 h
  split at hc
  case isTrue => cases hc
  case isFalse hne => exact hne hc

/-- What holds no dot has none to replace. -/
theorem map_dot_eq_self {cs : List Char} (h : '.' ∉ cs) :
    cs.map (fun c => if c = '.' then '_' else c) = cs := by
  refine (List.map_congr_left fun c hc => if_neg ?_).trans (List.map_id _)
  rintro rfl
  exact h hc

/-- A field name in lower case stands for itself exactly when it holds no dot. -/
theorem normalizeField_eq_self_iff {name : String} (h : IsLower name) :
    normalizeField name = name ↔ '.' ∉ name.toList := by
  refine ⟨fun heq => ?_, fun hdot => ?_⟩
  · rw [← heq]
    exact dot_not_mem_normalizeField name
  · rw [normalizeField, Text.lowerChars_eq_self h, map_dot_eq_self hdot, String.ofList_toList]

/-- A field name stands for a column in lower case. -/
theorem isLower_normalizeField (name : String) : IsLower (normalizeField name) := by
  intro c hc
  rw [normalizeField, String.toList_ofList] at hc
  obtain ⟨d, hd, rfl⟩ := List.mem_map.1 hc
  split
  case isTrue => decide
  case isFalse => exact Text.settled_of_mem_lowerFrom hd

/-- The column that a field name stands for stands for itself. -/
theorem normalizeField_normalizeField (name : String) :
    normalizeField (normalizeField name) = normalizeField name :=
  (normalizeField_eq_self_iff (isLower_normalizeField name)).2 (dot_not_mem_normalizeField name)

namespace Row

/-! ## The columns of a record -/

/-- What holds of the columns and of one more holds after a cell is kept under it. -/
theorem keep_keys {P : String → Prop} {row : Row} {path : String} (cell : Json.Value)
    (hrow : ∀ k ∈ row.keys, P k) (hpath : P path) : ∀ k ∈ (row.keep path cell).keys, P k := by
  unfold keep
  split
  case isTrue => exact hrow
  case isFalse =>
    rw [Json.Members.keys_append]
    exact List.forall_mem_append.2 ⟨hrow, by simpa [Json.Members.keys] using hpath⟩

/-- What holds of a column is kept by each step into its value. -/
structure Hereditary (P : String → Prop) : Prop where
  key : ∀ path key, P path → P (under path (Text.lower key))
  item : ∀ path (i : Nat), P path → P (under path (toString i))

/-- Of a list the items are gathered, unless lists are skipped. -/
theorem gather_arr (policy : ArrayPolicy) (row : Row) (path : String)
    (items : List Json.Value) : gather policy row path (.arr items) =
      if policy = .skip then row else gatherItems policy row path 0 items := by
  cases policy with
  | skip => rw [gather, if_pos rfl]
  | index => rw [gather, if_neg nofun]

mutual

/-- What each step keeps holds of every column that a value adds. -/
theorem gather_keys {P : String → Prop} (hP : Hereditary P) (policy : ArrayPolicy) {row : Row}
    {path : String} (hrow : ∀ k ∈ row.keys, P k) (hpath : P path) :
    ∀ value, ∀ k ∈ (gather policy row path value).keys, P k
  | .obj members => by
    rw [gather]
    exact gatherMembers_keys hP policy hrow hpath members
  | .arr items => by
    rw [gather_arr]
    split
    case isTrue => exact hrow
    case isFalse => exact gatherItems_keys hP policy hrow hpath 0 items
  | .null | .bool _ | .int _ | .double _ | .str _ => keep_keys _ hrow hpath

/-- What each step keeps holds of the columns of the members of an object. -/
theorem gatherMembers_keys {P : String → Prop} (hP : Hereditary P) (policy : ArrayPolicy)
    {row : Row} {path : String} (hrow : ∀ k ∈ row.keys, P k) (hpath : P path) :
    ∀ members, ∀ k ∈ (gatherMembers policy row path members).keys, P k
  | [] => by
    rw [gatherMembers]
    exact hrow
  | (key, value) :: rest => by
    rw [gatherMembers]
    have hvalue := gather_keys hP policy hrow (hP.key path key hpath) value
    exact gatherMembers_keys hP policy hvalue hpath rest

/-- What each step keeps holds of the columns of the items of a list. -/
theorem gatherItems_keys {P : String → Prop} (hP : Hereditary P) (policy : ArrayPolicy)
    {row : Row} {path : String} (hrow : ∀ k ∈ row.keys, P k) (hpath : P path) (i : Nat) :
    ∀ items, ∀ k ∈ (gatherItems policy row path i items).keys, P k
  | [] => by
    rw [gatherItems]
    exact hrow
  | value :: rest => by
    rw [gatherItems]
    have hvalue := gather_keys hP policy hrow (hP.item path i hpath) value
    exact gatherItems_keys hP policy hvalue hpath (i + 1) rest

end

/-- What holds of every key in lower case and is kept by each step holds of every column. -/
theorem flatten_keys {P : String → Prop} (hP : Hereditary P)
    (hkey : ∀ key, P (Text.lower key)) (hscalar : P scalarColumn) (policy : ArrayPolicy)
    (record : Json.Value) : ∀ k ∈ (flatten policy record).keys, P k := by
  unfold flatten
  split
  case h_1 members =>
    have hfold (row : Row) (hrow : ∀ k ∈ row.keys, P k) : ∀ k ∈ Json.Members.keys
        (members.foldl (fun row kv => gather policy row (Text.lower kv.1) kv.2) row), P k := by
      induction members generalizing row with
      | nil => exact hrow
      | cons kv members ih => exact ih _ (gather_keys hP policy hrow (hkey kv.1) kv.2)
    exact hfold [] (List.forall_mem_nil _)
  case h_2 => simpa [Json.Members.keys] using hscalar

/-- The names of columns stay in lower case in each step. -/
theorem hereditary_isLower : Hereditary IsLower where
  key _ key h := h.under (isLower_lower key)
  item _ i h := h.under (isLower_toString i)

/-- The columns of a record are in lower case. -/
theorem flatten_isLower (policy : ArrayPolicy) (record : Json.Value) :
    ∀ k ∈ (flatten policy record).keys, IsLower k :=
  flatten_keys hereditary_isLower isLower_lower (by decide) policy record

/-! ## Projection -/

/-- A projected row has no columns but those of the fields. -/
theorem keys_project_subset (row : Row) (fields : List String) :
    ∀ k ∈ (row.project fields).keys, ∃ f ∈ fields, k = normalizeField f := by
  intro k hk
  rw [project, Json.Members.mem_keys_ofList, List.map_map] at hk
  obtain ⟨f, hf, rfl⟩ := List.mem_map.1 hk
  exact ⟨f, hf, rfl⟩

/-- Columns that stand for themselves are picked as they are. -/
theorem project_eq_map {columns : List String} (hnodup : columns.Nodup)
    (hself : ∀ c ∈ columns, normalizeField c = c) (row : Row) :
    row.project columns = columns.map fun c => (c, row.cell c) := by
  have hpairs : (columns.map fun field => (normalizeField field, row.cell (normalizeField field))) =
      columns.map fun c => (c, row.cell c) :=
    List.map_congr_left fun c hc => by rw [hself c hc]
  rw [project, hpairs]
  exact Json.Members.ofList_eq_self ((Json.Members.keys_map columns _).symm ▸ hnodup)

/-- A projection has the columns that its fields stand for, each with its cell, and no other. -/
theorem get?_project (row : Row) (fields : List String) (c : String) :
    (row.project fields).get? c =
      if c ∈ fields.map normalizeField then some (row.cell c) else none := by
  have hpairs : (fields.map fun field => (normalizeField field, row.cell (normalizeField field))) =
      (fields.map normalizeField).map fun c => (c, row.cell c) := by rw [List.map_map]; rfl
  rw [project, hpairs, Json.Members.get?_ofList_map]

/-- The cell of a missing column is empty. -/
theorem cell_of_not_mem {row : Row} {c : String} (h : c ∉ row.keys) : row.cell c = .str "" := by
  have hnone : row.get? c = none :=
    Option.not_isSome_iff_eq_none.1 (mt Json.Members.isSome_get?_iff.1 h)
  rw [cell, hnone, Option.getD_none]

end Row

end FeedQuery
