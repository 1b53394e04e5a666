import FeedQuery.Proofs.Row.Leaves
import FeedQuery.Proofs.Text.Casing

/-!
# Field names with dots

The way to a leaf is written as a field name with dots (`Row.dotted`). The column of the leaf has
each key in lower case, while the field name is put in lower case as a whole. The two come to the
same name exactly when each capital sigma ends a word in the field name where it ends one in its key
(`Row.normalizeField_dotted_iff`); a dot ends no word, so a final sigma in front of one, or one that
is a key of its own, is lost (`Row.project_dotted_lost`).
-/

namespace FeedQuery.Row

open Text

/-- What a step is called in a field name. -/
def Step.word : Step → String
  | .member key => key
  | .item i => toString i

/-- The field name that is written for a way. -/
def dotted (way : List Step) : String := ".".intercalate (way.map Step.word)

/-- A step adds its word in lower case to the name of a column. -/
theorem Step.toList_part (step : Step) : step.part.toList = lowerChars step.word.toList := by
  cases step with
  | member key => exact String.toList_ofList
  | item i => exact (lowerChars_eq_self (isLower_toString i)).symm

/-- The digits of a position hold no dot. -/
theorem dot_not_mem_toString (i : Nat) : '.' ∉ (toString i).toList := by
  intro hdot
  have hmem : '.' ∈ Nat.toDigits 10 i := by simpa [Nat.repr] using hdot
  exact absurd (Nat.isDigit_of_mem_toDigits (by decide) (by decide) hmem) (by decide)

/-- The words of a way hold no dot if no key on it does. -/
theorem Step.dot_not_mem_word {way : List Step}
    (hdots : ∀ key, .member key ∈ way → '.' ∉ key.toList) :
    ∀ word ∈ way.map fun step => step.word.toList, '.' ∉ word := by
  intro word hword
  obtain ⟨step, hstep, rfl⟩ := List.mem_map.1 hword
  cases step with
  | member key => exact hdots key hstep
  | item i => exact dot_not_mem_toString i

/-- Parts with a separator between them are the first and then the others, each behind one. -/
theorem intercalate_eq_flatMap (separator : Char) (part : List Char) (parts : List (List Char)) :
    [separator].intercalate (part :: parts) = part ++ parts.flatMap (separator :: ·) := by
  induction parts generalizing part with
  | nil => simp
  | cons part' parts ih => simp [List.intercalate_cons_cons, ih]

/-- Two lists that are as long up to an item are equal before it and behind it. -/
theorem append_cons_inj {α : Type} {as bs cs ds : List α} {a : α} (h : as.length = bs.length) :
    as ++ a :: cs = bs ++ a :: ds ↔ as = bs ∧ cs = ds := by
  constructor
  · intro heq
    exact (List.append_inj heq h).imp_right List.tail_eq_of_cons_eq
  · rintro ⟨rfl, rfl⟩
    rfl

/-- Each capital sigma of the words ends a word when they are joined by dots where it ends one in
its own word. -/
def KeepsSigmas (words : List (List Char)) : Prop :=
  ∀ pre word post, words = pre ++ word :: post →
    SigmasAlike (pre.flatMap (· ++ ['.'])).reverse (post.flatMap ('.' :: ·)) [] [] word

/-- A dot stays in lower case. -/
theorem lowerFrom_dot (before cs : List Char) :
    Casing.lowerFrom before ('.' :: cs) = '.' :: Casing.lowerFrom ('.' :: before) cs := rfl

/-- A word at the start of a text in lower case holds no dot. -/
theorem map_lowerFrom_append {word : List Char} (hdot : '.' ∉ word) (before after : List Char) :
    (Casing.lowerFrom before (word ++ after)).map (fun c => if c = '.' then '_' else c) =
      lowerBetween before after word ++ (Casing.lowerFrom (word.reverse ++ before) after).map
        (fun c => if c = '.' then '_' else c) := by
  rw [lowerFrom_append, List.map_append,
    map_dot_eq_self (dot_not_mem_lowerBetween hdot before after)]

/-- Words joined by dots, in lower case as a whole and then with underscores for the dots, behind
the characters `before`. -/
theorem map_lowerFrom_dotted_iff {before word : List Char} {words : List (List Char)}
    (hdots : ∀ w ∈ word :: words, '.' ∉ w) :
    (Casing.lowerFrom before (word ++ words.flatMap ('.' :: ·))).map
        (fun c => if c = '.' then '_' else c) =
      lowerChars word ++ words.flatMap ('_' :: lowerChars ·) ↔
    ∀ pre w post, word :: words = pre ++ w :: post →
      SigmasAlike ((pre.flatMap (· ++ ['.'])).reverse ++ before) (post.flatMap ('.' :: ·))
        [] [] w := by
  have hchars (w : List Char) : lowerChars w = lowerBetween [] [] w :=
    lowerFrom_eq_lowerBetween [] w
  induction words generalizing before word with
  | nil =>
    rw [map_lowerFrom_append (hdots word (.head _)), forall_eq_append_cons, ← lowerBetween_eq_iff,
      hchars]
    simp [Casing.lowerFrom]
  | cons next words ih =>
    obtain ⟨hdot, hrest⟩ := List.forall_mem_cons.1 hdots
    have hnext := @ih ('.' :: (word.reverse ++ before)) next hrest
    rw [map_lowerFrom_append hdot, forall_eq_append_cons, ← lowerBetween_eq_iff, hchars,
      List.flatMap_cons, List.flatMap_cons, List.cons_append, lowerFrom_dot, List.map_cons,
      if_pos rfl, List.cons_append]
    -- the word does not change its length, so it is compared on its own and the rest behind it
    refine (append_cons_inj length_lowerBetween).trans ((and_congr_right' hnext).trans ?_)
    simp

/-- The field name of a way stands for the column of the way exactly when it keeps the sigmas. -/
theorem normalizeField_dotted_iff {way : List Step}
    (hdots : ∀ key, .member key ∈ way → '.' ∉ key.toList) :
    normalizeField (dotted way) = columnOf way ↔
      KeepsSigmas (way.map fun step => step.word.toList) := by
  cases way with
  | nil =>
    refine iff_of_true rfl fun pre word post hsplit => ?_
    simp at hsplit
  | cons step way =>
    have hparts : (columnOf (step :: way)).toList = lowerChars step.word.toList ++
        (way.map fun step => step.word.toList).flatMap ('_' :: lowerChars ·) := by
      rw [columnOf, String.toList_intercalate, List.map_cons, List.map_cons]
      refine (intercalate_eq_flatMap '_' _ _).trans ?_
      simp [Step.toList_part, List.flatMap_map]
    have hwords : (dotted (step :: way)).toList = step.word.toList ++
        (way.map fun step => step.word.toList).flatMap ('.' :: ·) := by
      rw [dotted, String.toList_intercalate, List.map_cons, List.map_cons]
      refine (intercalate_eq_flatMap '.' _ _).trans ?_
      simp [List.flatMap_map]
    rw [← String.toList_inj, normalizeField, String.toList_ofList, lowerChars, hwords, hparts,
      map_lowerFrom_dotted_iff (Step.dot_not_mem_word hdots)]
    simp [KeepsSigmas]

/-- A field picks one cell. -/
theorem project_singleton (row : Row) (field : String) :
    row.project [field] = [(normalizeField field, row.cell (normalizeField field))] := rfl

/-- **The field name of a way picks the leaf that the way leads to, if it keeps the sigmas.** No key
on the way holds a dot, and the leaf is the one that is kept of those under its column. Then the
field name picks one cell, and it is the one of that column exactly when each capital sigma ends a
word in the field name where it ends one in its key. -/
theorem project_dotted_iff (policy : ArrayPolicy) (members : List (String × Json.Value))
    {way : List Step} {v : Json.Value} (hdots : ∀ key, .member key ∈ way → '.' ∉ key.toList)
    (hkept : (leaves policy (.obj members)).find? (fun leaf => columnOf leaf.1 == columnOf way) =
      some (way, v)) :
    ((flatten policy (.obj members)).project [dotted way]).length = 1 ∧
      ((flatten policy (.obj members)).project [dotted way] = [(columnOf way, v)] ↔
        KeepsSigmas (way.map fun step => step.word.toList)) := by
  have hcell : (flatten policy (.obj members)).cell (columnOf way) = v := by
    rw [cell, get?_flatten, hkept]
    rfl
  rw [project_singleton, ← normalizeField_dotted_iff hdots]
  refine ⟨rfl, fun h => ?_, fun h => by rw [h, hcell]⟩
  exact (Prod.mk.inj (List.singleton_inj.1 h)).1

/-- The sigmas of a key behind a list are told from those of the whole name. -/
theorem project_dotted_item :
    let record : List (String × Json.Value) :=
      [("Posts", .arr [.obj [("ΣΟΦΟΣ", .null)]])]
    let way : List Step := [.member "Posts", .item 0, .member "ΣΟΦΟΣ"]
    (∀ key, .member key ∈ way → '.' ∉ key.toList) ∧
      (leaves .index (.obj record)).find? (fun leaf => columnOf leaf.1 == columnOf way) =
        some (way, .null) ∧
      (flatten .index (.obj record)).project ["Posts.0.ΣΟΦΟΣ"] = [("posts_0_σοφος", .null)] ∧
      KeepsSigmas (way.map fun step => step.word.toList) := by
  intro record way
  have hdots : ∀ key, .member key ∈ way → '.' ∉ key.toList := by
    simp [way]
  have hkept : (leaves .index (.obj record)).find? (fun leaf => columnOf leaf.1 == columnOf way) =
      some (way, .null) := by
    simp [record, leaves, memberLeaves, itemLeaves, way]
  have hname : dotted way = "Posts.0.ΣΟΦΟΣ" := by decide +kernel
  have hcolumn : columnOf way = "posts_0_σοφος" := by decide +kernel
  have hkeeps : normalizeField (dotted way) = columnOf way := by decide +kernel
  have hsigmas := (normalizeField_dotted_iff hdots).1 hkeeps
  obtain ⟨-, h⟩ := project_dotted_iff .index record hdots hkept
  rw [hname, hcolumn] at h
  exact ⟨hdots, hkept, h.2 hsigmas, hsigmas⟩

/-- A final sigma in front of a dot is none in the field name, and the leaf is lost. -/
theorem project_dotted_lost :
    let record : Json.Value := .obj [("ΟΔΟΣ", .obj [("name", .int 1)])]
    let way : List Step := [.member "ΟΔΟΣ", .member "name"]
    leaves .skip record = [(way, .int 1)] ∧ dotted way = "ΟΔΟΣ.name" ∧
      flatten .skip record = [("οδος_name", .int 1)] ∧
      (flatten .skip record).project [dotted way] = [("οδοσ_name", .str "")] := by
  intro record way
  have hname : dotted way = "ΟΔΟΣ.name" := by decide +kernel
  have hcolumn : under (Text.lower "ΟΔΟΣ") (Text.lower "name") = "οδος_name" := by decide +kernel
  have hfield : normalizeField "ΟΔΟΣ.name" = "οδοσ_name" := by decide +kernel
  have hflat : flatten .skip record = [("οδος_name", .int 1)] :=
    congrArg (fun c => [(c, Json.Value.int 1)]) hcolumn
  refine ⟨rfl, hname, hflat, ?_⟩
  rw [hname, hflat, project_singleton, hfield]
  rfl

end FeedQuery.Row
