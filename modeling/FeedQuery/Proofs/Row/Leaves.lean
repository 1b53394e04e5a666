import FeedQuery.Proofs.Row

/-!
# The leaves of a record

A row is the leaves of its record, each under the column that the way to it names. Here the leaves
are listed without regard to their columns (`Row.leaves`): first the whole record is gone through,
and then the first leaf of each column is picked. `Row.mem_leaves_iff` says which leaves there are,
and `Row.flatten_eq_firstLeaves` that the two orders of work come to the same.
-/

namespace FeedQuery.Row

/-- A step into a value. -/
inductive Step where
  /-- To the member of that name of an object. -/
  | member (key : String)
  /-- To the item of a list at that position. -/
  | item (i : Nat)

/-- What a step adds to the name of a column. -/
def Step.part : Step → String
  | .member key => Text.lower key
  | .item i => toString i

/-- The column that the way to a leaf names. -/
def columnOf (way : List Step) : String := "_".intercalate (way.map Step.part)

mutual

/-- The leaves of a value in order, each with the way to it. -/
def leaves (policy : ArrayPolicy) : Json.Value → List (List Step × Json.Value)
  | .obj members => memberLeaves policy members
  | .arr items =>
    match policy with
    | .skip => []
    | .index => itemLeaves policy 0 items
  | leaf => [([], leaf)]

/-- The leaves of the members of an object. -/
def memberLeaves (policy : ArrayPolicy) :
    List (String × Json.Value) → List (List Step × Json.Value)
  | [] => []
  | (key, value) :: rest =>
    (leaves policy value).map (fun leaf => (.member key :: leaf.1, leaf.2)) ++
      memberLeaves policy rest

/-- The leaves of the items of a list from position `i` on. -/
def itemLeaves (policy : ArrayPolicy) (i : Nat) :
    List Json.Value → List (List Step × Json.Value)
  | [] => []
  | value :: rest =>
    (leaves policy value).map (fun leaf => (.item i :: leaf.1, leaf.2)) ++
      itemLeaves policy (i + 1) rest

end

/-! ## Which leaves there are -/

/-- A value that holds no others. -/
def IsLeaf : Json.Value → Prop
  | .obj _ | .arr _ => False
  | _ => True

/-- The way leads from a value to a leaf. It goes through lists only where their items are named. -/
inductive LeadsTo (policy : ArrayPolicy) : Json.Value → List Step → Json.Value → Prop
  | leaf : IsLeaf v → LeadsTo policy v [] v
  | member : (key, w) ∈ members → LeadsTo policy w way v →
      LeadsTo policy (.obj members) (.member key :: way) v
  | item : policy = .index → items[i]? = some w → LeadsTo policy w way v →
      LeadsTo policy (.arr items) (.item i :: way) v

variable {policy : ArrayPolicy}

/-- A way leads to a leaf. -/
theorem LeadsTo.isLeaf {value v : Json.Value} {way : List Step}
    (h : LeadsTo policy value way v) : IsLeaf v := by
  induction h with
  | leaf h => exact h
  | member _ _ ih | item _ _ _ ih => exact ih

/-- A leaf is its own only leaf, at the end of the empty way. -/
theorem leaves_of_isLeaf {value : Json.Value} (h : IsLeaf value) :
    leaves policy value = [([], value)] := by
  cases value with
  | obj | arr => cases h
  | null | bool | int | double | str => rfl

/-- A list has the leaves of its items, unless lists are skipped. -/
theorem leaves_arr (policy : ArrayPolicy) (items : List Json.Value) :
    leaves policy (.arr items) = if policy = .skip then [] else itemLeaves policy 0 items := by
  cases policy with
  | skip => rw [leaves, if_pos rfl]
  | index => rw [leaves, if_neg nofun]

/-- A leaf of the members of an object is one of the value of some member. -/
theorem mem_memberLeaves {members : List (String × Json.Value)} {way : List Step}
    {v : Json.Value} : (way, v) ∈ memberLeaves policy members ↔
      ∃ key w way', way = .member key :: way' ∧ (key, w) ∈ members ∧
        (way', v) ∈ leaves policy w := by
  induction members with
  | nil => simp [memberLeaves]
  | cons member members ih =>
    obtain ⟨key, w⟩ := member
    rw [memberLeaves, List.mem_append, ih, List.mem_map]
    constructor
    · rintro (⟨⟨way', v'⟩, hmem, heq⟩ | ⟨key', w', way', rfl, hw, hmem⟩)
      · obtain ⟨rfl, rfl⟩ := Prod.mk.inj heq
        exact ⟨key, w, way', rfl, .head _, hmem⟩
      · exact ⟨key', w', way', rfl, .tail _ hw, hmem⟩
    · rintro ⟨key', w', way', rfl, hw, hmem⟩
      cases hw with
      | head => exact .inl ⟨_, hmem, rfl⟩
      | tail _ hw => exact .inr ⟨key', w', way', rfl, hw, hmem⟩

/-- A leaf of the items of a list is one of some item, by its position. -/
theorem mem_itemLeaves {items : List Json.Value} {i : Nat} {way : List Step} {v : Json.Value} :
    (way, v) ∈ itemLeaves policy i items ↔
      ∃ j w way', way = .item (i + j) :: way' ∧ items[j]? = some w ∧
        (way', v) ∈ leaves policy w := by
  induction items generalizing i with
  | nil => simp [itemLeaves]
  | cons w items ih =>
    rw [itemLeaves, List.mem_append, ih, List.mem_map]
    constructor
    · rintro (⟨⟨way', v'⟩, hmem, heq⟩ | ⟨j, w', way', rfl, hw, hmem⟩)
      · obtain ⟨rfl, rfl⟩ := Prod.mk.inj heq
        exact ⟨0, w, way', rfl, rfl, hmem⟩
      · exact ⟨j + 1, w', way', by rw [Nat.add_right_comm, Nat.add_assoc], hw, hmem⟩
    · rintro ⟨j, w', way', rfl, hw, hmem⟩
      cases j with
      | zero =>
        cases hw
        exact .inl ⟨_, hmem, rfl⟩
      | succ j => exact .inr ⟨j, w', way', by rw [Nat.add_right_comm, Nat.add_assoc], hw, hmem⟩

/-- The leaves of a value are those that ways lead to. -/
theorem mem_leaves_iff {value v : Json.Value} {way : List Step} :
    (way, v) ∈ leaves policy value ↔ LeadsTo policy value way v := by
  constructor
  · intro h
    induction way generalizing value with
    | nil =>
      cases value with
      | obj members =>
        obtain ⟨_, _, _, hway, -⟩ := mem_memberLeaves.1 h
        cases hway
      | arr items =>
        rw [leaves_arr] at h
        split at h
        case isTrue => cases h
        case isFalse =>
          obtain ⟨_, _, _, hway, -⟩ := mem_itemLeaves.1 h
          cases hway
      | null | bool | int | double | str =>
        cases List.mem_singleton.1 h
        exact .leaf trivial
    | cons step way ih =>
      cases value with
      | obj members =>
        obtain ⟨key, w, _, hway, hw, hmem⟩ := mem_memberLeaves.1 h
        obtain ⟨rfl, rfl⟩ := List.cons.inj hway
        exact .member hw (ih hmem)
      | arr items =>
        rw [leaves_arr] at h
        split at h
        case isTrue => cases h
        case isFalse hpolicy =>
          obtain ⟨j, w, _, hway, hw, hmem⟩ := mem_itemLeaves.1 h
          obtain ⟨rfl, rfl⟩ := List.cons.inj hway
          rw [Nat.zero_add]
          exact .item (by cases policy <;> simp_all) hw (ih hmem)
      | null | bool | int | double | str => cases List.mem_singleton.1 h
  · intro h
    induction h with
    | leaf hleaf =>
      rw [leaves_of_isLeaf hleaf]
      exact .head _
    | member hw _ ih => exact mem_memberLeaves.2 ⟨_, _, _, rfl, hw, ih⟩
    | item hpolicy hw _ ih =>
      rw [leaves_arr, if_neg (by rw [hpolicy]; decide)]
      exact mem_itemLeaves.2 ⟨_, _, _, by rw [Nat.zero_add], hw, ih⟩

/-! ## The leaves in the order in which they are added -/

/-- Adds cells one after the other, each unless there is one of its name. -/
def keepAll (row : Row) (cells : Json.Members) : Row :=
  cells.foldl (fun row cell => row.keep cell.1 cell.2) row

/-- Cells are added in parts. -/
theorem keepAll_append (row : Row) (cells cells' : Json.Members) :
    row.keepAll (cells ++ cells') = (row.keepAll cells).keepAll cells' :=
  List.foldl_append

/-- The column that a way names from what `path` names on. -/
def columnUnder (path : String) (way : List Step) : String :=
  way.foldl (fun path step => under path step.part) path

/-- What stands before a name stays before the columns from there on. -/
theorem columnUnder_append (path path' : String) (way : List Step) :
    columnUnder (path ++ path') way = path ++ columnUnder path' way := by
  induction way generalizing path' with
  | nil => rfl
  | cons step way ih =>
    have hunder : under (path ++ path') step.part = path ++ under path' step.part := by
      simp [under, String.append_assoc]
    rw [columnUnder, List.foldl_cons, hunder]
    exact ih _

/-- The column of a way starts with its first step. -/
theorem columnOf_cons (step : Step) (way : List Step) :
    columnOf (step :: way) = columnUnder step.part way := by
  induction way generalizing step with
  | nil => exact String.intercalate_singleton
  | cons step' way ih =>
    rw [columnOf, List.map_cons, List.map_cons, String.intercalate_cons_cons, columnUnder,
      List.foldl_cons]
    exact (congrArg (step.part ++ "_" ++ ·) (ih step')).trans (columnUnder_append ..).symm

/-- The cells of the leaves of what `path` names. -/
def cellsUnder (path : String) (leaves : List (List Step × Json.Value)) : Json.Members :=
  leaves.map fun leaf => (columnUnder path leaf.1, leaf.2)

/-- The cells of leaves are those of each part of them. -/
theorem cellsUnder_append (path : String) (us vs : List (List Step × Json.Value)) :
    cellsUnder path (us ++ vs) = cellsUnder path us ++ cellsUnder path vs :=
  List.map_append

/-- A step on the way to leaves goes into the name that they start from. -/
theorem cellsUnder_step (path : String) (step : Step) (us : List (List Step × Json.Value)) :
    cellsUnder path (us.map fun leaf => (step :: leaf.1, leaf.2)) =
      cellsUnder (under path step.part) us := by
  simp [cellsUnder, columnUnder]

mutual

/-- The leaves of a value are added in their order. -/
theorem gather_eq (policy : ArrayPolicy) (row : Row) (path : String) : ∀ value,
    gather policy row path value = row.keepAll (cellsUnder path (leaves policy value))
  | .obj members => by
    rw [gather, leaves]
    exact gatherMembers_eq policy row path members
  | .arr items => by
    rw [gather_arr, leaves_arr]
    split
    case isTrue => rfl
    case isFalse => exact gatherItems_eq policy row path 0 items
  | .null | .bool _ | .int _ | .double _ | .str _ => rfl

/-- The members of an object add the cells of their leaves. -/
theorem gatherMembers_eq (policy : ArrayPolicy) (row : Row) (path : String) : ∀ members,
    gatherMembers policy row path members =
      row.keepAll (cellsUnder path (memberLeaves policy members))
  | [] => rfl
  | (key, value) :: rest => by
    rw [gatherMembers, memberLeaves, cellsUnder_append, keepAll_append, cellsUnder_step,
      gather_eq policy row _ value, gatherMembers_eq policy _ path rest]
    rfl

/-- The items of a list add the cells of their leaves. -/
theorem gatherItems_eq (policy : ArrayPolicy) (row : Row) (path : String) (i : Nat) : ∀ items,
    gatherItems policy row path i items =
      row.keepAll (cellsUnder path (itemLeaves policy i items))
  | [] => rfl
  | value :: rest => by
    rw [gatherItems, itemLeaves, cellsUnder_append, keepAll_append, cellsUnder_step,
      gather_eq policy row _ value, gatherItems_eq policy _ path (i + 1) rest]
    rfl

end

/-- The leaves of a record, each under its column. -/
def cells (policy : ArrayPolicy) (record : Json.Value) : Json.Members :=
  (leaves policy record).map fun leaf => (columnOf leaf.1, leaf.2)

/-- The row of an object is made by adding its leaves in their order. -/
theorem flatten_obj (policy : ArrayPolicy) (members : List (String × Json.Value)) :
    flatten policy (.obj members) = keepAll [] (cells policy (.obj members)) := by
  have hfold (row : Row) :
      members.foldl (fun row kv => gather policy row (Text.lower kv.1) kv.2) row =
        row.keepAll ((memberLeaves policy members).map fun leaf => (columnOf leaf.1, leaf.2)) := by
    induction members generalizing row with
    | nil => rfl
    | cons member members ih =>
      obtain ⟨key, value⟩ := member
      have hcolumns :
          ((leaves policy value).map fun leaf => (Step.member key :: leaf.1, leaf.2)).map
              (fun leaf => (columnOf leaf.1, leaf.2)) =
            cellsUnder (Text.lower key) (leaves policy value) := by
        simp [cellsUnder, columnOf_cons, Step.part]
      rw [List.foldl_cons, ih, gather_eq, memberLeaves, List.map_append, keepAll_append, hcolumns]
  exact hfold []

/-! ## The first leaf of each column -/

/-- A cell is found where it is kept, unless there was one of its name. -/
theorem get?_keep (row : Row) (path : String) (cell : Json.Value) (column : String) :
    (row.keep path cell).get? column =
      (row.get? column).or (Json.Members.get? [(path, cell)] column) := by
  unfold keep
  split
  case isTrue hhas =>
    by_cases hcolumn : path = column
    · subst hcolumn
      have hsome := Json.Members.isSome_get?_iff.2 (Json.Members.has_iff.1 hhas)
      rw [Option.or_of_isSome hsome]
    · simp [Json.Members.get?, hcolumn]
  case isFalse => exact Json.Members.get?_append ..

/-- The first cell of a name is kept. -/
theorem get?_keepAll (row : Row) (cells : Json.Members) (column : String) :
    (row.keepAll cells).get? column = (row.get? column).or (cells.get? column) := by
  induction cells generalizing row with
  | nil => simp [keepAll, Json.Members.get?]
  | cons cell cells ih =>
    have hcons : cell :: cells = [cell] ++ cells := rfl
    rw [hcons, keepAll_append, ih, Json.Members.get?_append, ← Option.or_assoc]
    exact congrArg (Option.or · _) (get?_keep row cell.1 cell.2 column)

/-- New names are added at the end, each at its first occurrence. -/
theorem keys_keepAll (row : Row) (cells : Json.Members) :
    (row.keepAll cells).keys = row.keys ++ (cells.keys.filter (· ∉ row.keys)).eraseDups := by
  induction cells generalizing row with
  | nil => simp [keepAll, Json.Members.keys]
  | cons cell cells ih =>
    have hkeys : Json.Members.keys (cell :: cells) = cell.1 :: Json.Members.keys cells := rfl
    have hstep : row.keepAll (cell :: cells) = (row.keep cell.1 cell.2).keepAll cells := rfl
    rw [hstep, ih, hkeys, keep]
    by_cases hmem : cell.1 ∈ row.keys
    · rw [if_pos (Json.Members.has_iff.2 hmem), List.filter_cons_of_neg (by simpa using hmem)]
    · have hnames : (row ++ [(cell.1, cell.2)]).keys = row.keys ++ [cell.1] :=
        Json.Members.keys_append ..
      have hfilter : (Json.Members.keys cells).filter (· ∉ row.keys ++ [cell.1]) =
          ((Json.Members.keys cells).filter (· ∉ row.keys)).filter (fun c => !c == cell.1) := by
        rw [List.filter_filter]
        refine List.filter_congr fun column _ => Bool.eq_iff_iff.2 ?_
        simp [and_comm]
      rw [if_neg (mt Json.Members.has_iff.1 hmem), List.filter_cons_of_pos (by simpa using hmem),
        hnames, hfilter, List.eraseDups_cons, List.append_assoc]
      rfl

/-- Only cells that are added are there. -/
theorem mem_or_mem_of_mem_keepAll {row : Row} {cells : Json.Members} {cell : String × Json.Value}
    (h : cell ∈ row.keepAll cells) : cell ∈ row ∨ cell ∈ cells := by
  induction cells generalizing row with
  | nil => exact .inl h
  | cons first cells ih =>
    obtain hkeep | hmem := @ih (row.keep first.1 first.2) h
    · unfold keep at hkeep
      split at hkeep
      case isTrue => exact .inl hkeep
      case isFalse =>
        obtain hrow | hfirst := List.mem_append.1 hkeep
        · exact .inl hrow
        · exact .inr (List.mem_singleton.1 hfirst ▸ .head _)
    · exact .inr (.tail _ hmem)

/-- The columns of an object are those of its leaves, each at its first occurrence. -/
theorem keys_flatten (policy : ArrayPolicy) (members : List (String × Json.Value)) :
    (flatten policy (.obj members)).keys = (cells policy (.obj members)).keys.eraseDups := by
  have hall : (cells policy (.obj members)).keys.filter (· ∉ Json.Members.keys []) =
      (cells policy (.obj members)).keys := List.filter_eq_self.2 fun _ _ => rfl
  rw [flatten_obj, keys_keepAll, hall]
  rfl

/-- The cell of a column is the first leaf of that name. -/
theorem get?_flatten (policy : ArrayPolicy) (members : List (String × Json.Value))
    (column : String) :
    (flatten policy (.obj members)).get? column =
      ((leaves policy (.obj members)).find? fun leaf => columnOf leaf.1 == column).map (·.2) := by
  rw [flatten_obj, get?_keepAll, cells]
  simp [Json.Members.get?, List.find?_map, Function.comp_def]

/-- **The row of an object holds the first leaf of each column.** Its columns are those that the
ways to the leaves name, in the order in which they first occur, and the cell of each is the first
leaf of that name. The leaves are the values without parts that ways lead to; so no cell is an
object or a list, and where there is nothing in one there is no column for it. -/
theorem flatten_eq_firstLeaves (policy : ArrayPolicy) (members : List (String × Json.Value)) :
    (∀ way v, (way, v) ∈ leaves policy (.obj members) ↔ LeadsTo policy (.obj members) way v) ∧
    (flatten policy (.obj members)).keys =
      ((leaves policy (.obj members)).map fun leaf => columnOf leaf.1).eraseDups ∧
    (∀ column, (flatten policy (.obj members)).get? column =
      ((leaves policy (.obj members)).find? fun leaf => columnOf leaf.1 == column).map (·.2)) ∧
    ∀ cell ∈ flatten policy (.obj members), IsLeaf cell.2 := by
  refine ⟨fun way v => mem_leaves_iff, ?_, get?_flatten policy members, fun cell hcell => ?_⟩
  · rw [keys_flatten, cells, Json.Members.keys, List.map_map]
    rfl
  · rw [flatten_obj] at hcell
    obtain hnil | hmem := mem_or_mem_of_mem_keepAll hcell
    · cases hnil
    · obtain ⟨leaf, hleaf, rfl⟩ := List.mem_map.1 hmem
      exact (mem_leaves_iff.1 hleaf).isLeaf

example : flatten .index (.obj [("a", .obj [("b", .int 1), ("c", .obj [])]), ("A_B", .null),
    ("t", .arr [.bool true, .arr []]), ("T_0", .str "x")]) =
      [("a_b", .int 1), ("t_0", .bool true)] := rfl

end FeedQuery.Row
