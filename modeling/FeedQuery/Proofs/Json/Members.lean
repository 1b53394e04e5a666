import FeedQuery.Json.Basic

/-!
# Members of objects

Which names an object has after members are set (`Members.mem_keys_put`), and an object that is made
of members without a repeated name (`Members.ofList_eq_self`).
-/

namespace FeedQuery.Json.Members

/-- The names of members are those of each part of them. -/
theorem keys_append (members members' : Members) :
    keys (members ++ members') = members.keys ++ members'.keys :=
  List.map_append

/-- A member is there when its name is. -/
theorem has_iff {members : Members} {key : String} :
    members.has key = true ↔ key ∈ members.keys := by
  simp [has, keys]

/-- A member has a value when its name is there. -/
theorem isSome_get?_iff {members : Members} {key : String} :
    (members.get? key).isSome = true ↔ key ∈ members.keys := by
  simp [get?, keys]

/-- A member of the first part comes before one of the same name in the second. -/
theorem get?_append (members members' : Members) (key : String) :
    get? (members ++ members') key = (members.get? key).or (members'.get? key) := by
  rw [get?, List.find?_append, Option.map_or]
  rfl

/-- Members that are made for names have these names. -/
theorem keys_map (names : List String) (f : String → Value) :
    keys (names.map fun name => (name, f name)) = names := by
  rw [keys, List.map_map]
  exact List.map_id _

/-- The member that is made for a name is found under it. -/
theorem get?_map {names : List String} {name : String} (h : name ∈ names) (f : String → Value) :
    get? (names.map fun name => (name, f name)) name = some (f name) := by
  induction names with
  | nil => cases h
  | cons first names ih =>
    by_cases hname : first = name
    · simp [get?, hname]
    · have hrest : name ∈ names := List.mem_of_ne_of_mem (Ne.symm hname) h
      have hskip : get? ((first :: names).map fun name => (name, f name)) name =
          get? (names.map fun name => (name, f name)) name := by
        rw [get?, List.map_cons, List.find?_cons_of_neg (by simpa using hname)]
        rfl
      rw [hskip, ih hrest]

/-- Setting a member adds its name, and no other. -/
theorem mem_keys_put {members : Members} {key name : String} {value : Value} :
    name ∈ (members.put key value).keys ↔ name ∈ members.keys ∨ name = key := by
  induction members with
  | nil => simp [put, keys]
  | cons member members ih =>
    obtain ⟨k, v⟩ := member
    rw [put]
    split
    case isTrue hk =>
      obtain rfl : k = key := by simpa using hk
      simp [keys, or_comm]
    case isFalse =>
      have hcons (ms : Members) (w : Value) : keys ((k, w) :: ms) = k :: keys ms := rfl
      rw [hcons, hcons, List.mem_cons, List.mem_cons, ih, or_assoc]

/-- A new name goes to the end. -/
theorem put_of_not_mem {members : Members} {key : String} (h : key ∉ members.keys)
    (value : Value) : members.put key value = members ++ [(key, value)] := by
  induction members with
  | nil => rfl
  | cons member members ih =>
    obtain ⟨k, v⟩ := member
    have ⟨hk, hrest⟩ := not_or.1 (mt List.mem_cons.2 h)
    rw [put, if_neg (by simpa using Ne.symm hk), ih hrest]
    rfl

/-- A member that is set is found under its name, and the others are found as before. -/
theorem get?_put (members : Members) (key name : String) (value : Value) :
    (members.put key value).get? name = if name = key then some value else members.get? name := by
  induction members with
  | nil =>
    by_cases hname : name = key
    · simp [put, get?, hname]
    · simp [put, get?, hname, Ne.symm hname]
  | cons member members ih =>
    obtain ⟨k, v⟩ := member
    have hcons (ms : Members) (w : Value) :
        get? ((k, w) :: ms) name = if k = name then some w else ms.get? name := by
      by_cases hk : k = name <;> simp [get?, hk]
    rw [put]
    split
    case isTrue hk =>
      obtain rfl : k = key := by simpa using hk
      rw [hcons, hcons]
      by_cases hname : k = name
      · rw [if_pos hname, if_pos hname.symm]
      · rw [if_neg hname, if_neg hname, if_neg (Ne.symm hname)]
    case isFalse hk =>
      rw [hcons, hcons, ih]
      by_cases hname : k = name
      · have hne : name ≠ key := fun heq => hk (by simp [hname, heq])
        simp [hname, hne]
      · simp [hname]

/-- An object that is made of names, each with its value, has the values under the names. -/
theorem get?_ofList_map (names : List String) (f : String → Value) (name : String) :
    (ofList (names.map fun name => (name, f name))).get? name =
      if name ∈ names then some (f name) else none := by
  have hfold (members : Members) :
      get? ((names.map fun name => (name, f name)).foldl
        (fun members kv => members.put kv.1 kv.2) members) name =
        if name ∈ names then some (f name) else members.get? name := by
    induction names generalizing members with
    | nil => rfl
    | cons first names ih =>
      rw [List.map_cons, List.foldl_cons, ih, get?_put]
      by_cases hfirst : name = first <;> by_cases hrest : name ∈ names <;> simp [hfirst, hrest]
  exact hfold []

/-- No name is lost when repeated members are resolved. -/
theorem mem_keys_ofList {pairs : List (String × Value)} {name : String} :
    name ∈ (ofList pairs).keys ↔ name ∈ pairs.map (·.1) := by
  have hfold (members : Members) :
      name ∈ keys (pairs.foldl (fun members kv => members.put kv.1 kv.2) members) ↔
        name ∈ members.keys ∨ name ∈ pairs.map (·.1) := by
    induction pairs generalizing members with
    | nil => simp
    | cons kv pairs ih =>
      rw [List.foldl_cons, ih, mem_keys_put, List.map_cons, List.mem_cons, or_assoc]
  rw [ofList, hfold]
  simp [keys]

/-- Members with new names are added at the end, one after the other. -/
theorem foldl_put_eq_append {members pairs : Members} (h : (keys (members ++ pairs)).Nodup) :
    pairs.foldl (fun members kv => members.put kv.1 kv.2) members = members ++ pairs := by
  induction pairs generalizing members with
  | nil => rw [List.foldl_nil, List.append_nil]
  | cons kv pairs ih =>
    have hnew : kv.1 ∉ members.keys := by
      intro hmem
      rw [keys_append] at h
      exact (List.nodup_append.1 h).2.2 _ hmem kv.1 (.head _) rfl
    have hsplit : members ++ kv :: pairs = members ++ [kv] ++ pairs := by simp
    rw [hsplit] at h ⊢
    rw [List.foldl_cons, put_of_not_mem hnew]
    exact ih h

/-- Members without a repeated name are the members of an object. -/
theorem ofList_eq_self {pairs : Members} (h : pairs.keys.Nodup) : ofList pairs = pairs :=
  (foldl_put_eq_append h : _ = [] ++ pairs)

end FeedQuery.Json.Members
