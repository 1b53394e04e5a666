import FeedQuery.Proofs.Json.Members
import FeedQuery.Proofs.Tree
import FeedQuery.Query.Json
import FeedQuery.Tree.Json

/-!
# Reading back JSON

Trees, queries and retrievals are read back from their JSON form (`readBack_written`).
-/

namespace FeedQuery

/-!
## Trees are read back from JSON

What is written as a value is read back from it. A child does not say what it is, but only a token
has a text (`Tree.tokenOfValue?_node`), so that no node is taken for a token, whatever it is called.
Messages that are left out because there are none are read as none (`errorsOf?_append`). With these
two facts the induction on trees is one on their children (`Tree.ofValue?_toValue`).
-/

/-! ### Lists -/

/-- A list is read back when each of its items is. -/
theorem mapM_map_eq_some {α β : Type} {f : α → β} {g : β → Option α} {l : List α}
    (h : ∀ a ∈ l, g (f a) = some a) : (l.map f).mapM g = some l := by
  induction l with
  | nil => rfl
  | cons a l ih =>
    have ⟨ha, hl⟩ := List.forall_mem_cons.1 h
    rw [List.map_cons, List.mapM_cons, ha, ih hl]
    rfl

/-- A list of texts is read back. -/
theorem Json.Value.strings?_ofStrings (texts : List String) :
    (Json.Value.ofStrings texts).strings? = some texts :=
  mapM_map_eq_some fun _ _ => rfl

/-! ### Messages -/

/-- The member of the messages has no other name. -/
theorem get?_errorsMember {key : String} (h : key ≠ "errors") (errors : List String) :
    (errorsMember errors).get? key = none := by
  cases errors with
  | nil => rfl
  | cons => simp [errorsMember, Json.Members.get?, h.symm]

/-- Messages are left out exactly when there are none. -/
theorem get?_errors_append {members : Json.Members} (h : members.get? "errors" = none)
    (errors : List String) :
    (members ++ errorsMember errors).get? "errors" = none ↔ errors = [] := by
  rw [Json.Members.get?_append, h, Option.none_or]
  cases errors with
  | nil => exact iff_of_true rfl rfl
  | cons => exact iff_of_false (by simp [errorsMember, Json.Members.get?]) (List.cons_ne_nil _ _)

/-- Messages are read back, also where they are left out. -/
theorem errorsOf?_append {members : Json.Members} (h : members.get? "errors" = none)
    (errors : List String) : errorsOf? (.obj (members ++ errorsMember errors)) = some errors := by
  rw [errorsOf?, Json.Value.get?, Json.Members.get?_append, h, Option.none_or]
  cases errors with
  | nil => rfl
  | cons message errors => exact Json.Value.strings?_ofStrings (message :: errors)

/-! ### Tokens -/

/-- The kind of a token is read back from its name. -/
theorem TokenKind.ofName?_name (kind : TokenKind) : ofName? kind.name = some kind := by
  cases kind <;> rfl

/-- A place is read back. -/
theorem Span.ofValue?_toValue (s : Span) : ofValue? s.toValue = some s := rfl

namespace Token

/-- A token is read back. -/
theorem ofValue?_toValue (t : Token) : ofValue? t.toValue = some t := by
  have hkind : t.toValue.text? "kind" = some t.kind.name := rfl
  have htext : t.toValue.text? "text" = some t.text := rfl
  have hspan : t.toValue.get? "span" = some t.span.toValue := rfl
  have herrors : errorsOf? t.toValue = some t.errors := errorsOf?_append rfl t.errors
  simp [ofValue?, hkind, htext, hspan, herrors, TokenKind.ofName?_name, Span.ofValue?_toValue]

/-- What has no text is no token, of whatever kind it says that it is. -/
theorem ofValue?_eq_none {v : Json.Value} (h : v.get? "text" = none) : ofValue? v = none := by
  simp [ofValue?, Json.Value.text?, h]

end Token

/-! ### Trees -/

/-- The kind of a node is read back from its name. -/
theorem NodeKind.ofName?_name (kind : NodeKind) : ofName? kind.name = some kind := by
  cases kind <;> rfl

namespace Tree

/-- A child is read as a token if it can be, and as a node otherwise. -/
theorem ofValue?_eq_or (v : Json.Value) :
    ofValue? v = ((Token.ofValue? v).map .leaf).or (rootOfValue? v) := by
  cases v with
  | obj members =>
    rw [ofValue?]
    cases Token.ofValue? (.obj members) <;> rfl
  | _ => rfl

/-- The trees of a list are written one by one. -/
theorem toValues_eq_map (ts : List Tree) : toValues ts = ts.map toValue := by
  induction ts with
  | nil => rfl
  | cons t ts ih => rw [toValues, ih, List.map_cons]

/-- The trees of a list are read one by one. -/
theorem ofValues?_eq_mapM (vs : List Json.Value) : ofValues? vs = vs.mapM ofValue? := by
  induction vs with
  | nil => rfl
  | cons v vs ih =>
    rw [ofValues?, ih, List.mapM_cons]
    cases ofValue? v with
    | none => rfl
    | some => cases vs.mapM ofValue? <;> rfl

section
variable (kind : NodeKind) (children : List Tree) (errors : List String)

/-- A node is written with its kind and its children, and with its messages if it has any. -/
theorem toValue_node : toValue (.node kind children errors) =
    .obj ([("kind", .str kind.name), ("children", .arr (children.map toValue))] ++
      errorsMember errors) := by
  rw [toValue, toValues_eq_map]

/-- No node is taken for a token, because it has no text. -/
theorem tokenOfValue?_node : Token.ofValue? (toValue (.node kind children errors)) = none := by
  refine Token.ofValue?_eq_none ?_
  rw [toValue_node, Json.Value.get?, Json.Members.get?_append, get?_errorsMember (by decide)]
  rfl

/-- A node is read from its kind, its children and its messages. -/
theorem nodeOf?_eq_some {v : Json.Value} (hkind : v.text? "kind" = some kind.name)
    (herrors : errorsOf? v = some errors) :
    nodeOf? v children = some (.node kind children errors) := by
  simp [nodeOf?, hkind, herrors, NodeKind.ofName?_name]

/-- A node is read back when its children are. -/
theorem rootOfValue?_toValue (h : ∀ c ∈ children, ofValue? c.toValue = some c) :
    rootOfValue? (toValue (.node kind children errors)) = some (.node kind children errors) := by
  have hchildren : childrenIn? ([("kind", .str kind.name),
      ("children", .arr (children.map toValue))] ++ errorsMember errors) = some children := by
    rw [List.cons_append, childrenIn?, if_neg (by decide), List.cons_append, childrenIn?,
      if_pos rfl, childrenOf?, ofValues?_eq_mapM]
    exact mapM_map_eq_some h
  rw [toValue_node, rootOfValue?, hchildren, Option.bind_some]
  exact nodeOf?_eq_some kind children errors rfl (errorsOf?_append rfl errors)

end

/-- A token is read back as a tree. -/
theorem ofValue?_leaf (t : Token) : ofValue? t.toValue = some (.leaf t) := by
  rw [ofValue?_eq_or, Token.ofValue?_toValue]
  rfl

/-- A tree is read back. -/
theorem ofValue?_toValue (t : Tree) : ofValue? t.toValue = some t := by
  induction t using induct with
  | leaf token => rw [toValue, ofValue?_leaf]
  | node kind children errors ih =>
    rw [ofValue?_eq_or, tokenOfValue?_node, rootOfValue?_toValue kind children errors ih]
    rfl

end Tree

/-!
## Queries and retrievals are read back from JSON

A comparison is written as an object and a connector as a word, so that each piece of a condition is
read as what it is (`Condition.ofValue?_toValue`). With the trees, nothing that a query is made of
or comes to is lost in its JSON form (`readBack_written`).
-/

/-- A piece of a condition is read back. -/
theorem Condition.ofValue?_toValue (c : Condition) : ofValue? c.toValue = some c := by
  cases c with
  | comparison p => rfl
  | connector c => cases c <;> rfl

/-- A query is read back. -/
theorem Query.ofValue?_toValue (q : Query) : ofValue? q.toValue = some q := by
  have htable : q.toValue.text? "table" = some q.table := rfl
  have hconditions : q.toValue.get? "predicates" =
      some (.arr (q.conditions.map Condition.toValue)) := rfl
  have hfields : q.toValue.get? "fields" = some (.ofStrings q.fields) := rfl
  have hread : (q.conditions.map Condition.toValue).mapM Condition.ofValue? = some q.conditions :=
    mapM_map_eq_some fun c _ => c.ofValue?_toValue
  simp [ofValue?, htable, hconditions, hfields, Json.Value.arr?, hread,
    Json.Value.strings?_ofStrings]

/-- A retrieval is read back. -/
theorem Retrieval.ofValue?_toValue (r : Retrieval) : ofValue? r.toValue = some r := by
  cases r with
  | profile actor => cases actor <;> rfl
  | _ => rfl

/-- **The JSON form of trees and queries loses nothing.** A tree is read back from its form, a token
as a token and a node as a node: as a child, which does not say which of the two it is, and as the
root. Messages are left out exactly when there are none. Queries and retrievals are read back as
well. -/
theorem readBack_written :
    (∀ t : Tree, Tree.ofValue? t.toValue = some t) ∧
    (∀ t : Token, Token.ofValue? t.toValue = some t ∧ Tree.ofValue? t.toValue = some (.leaf t) ∧
      (t.toValue.get? "errors" = none ↔ t.errors = [])) ∧
    (∀ kind children errors, let node := Tree.node kind children errors
      Token.ofValue? node.toValue = none ∧ Tree.rootOfValue? node.toValue = some node ∧
      (node.toValue.get? "errors" = none ↔ errors = [])) ∧
    (∀ q : Query, Query.ofValue? q.toValue = some q) ∧
    ∀ r : Retrieval, Retrieval.ofValue? r.toValue = some r := by
  refine ⟨Tree.ofValue?_toValue, fun t => ⟨t.ofValue?_toValue, Tree.ofValue?_leaf t, ?_⟩,
    fun kind children errors => ⟨Tree.tokenOfValue?_node .., ?_, ?_⟩, Query.ofValue?_toValue,
    Retrieval.ofValue?_toValue⟩
  · exact get?_errors_append rfl t.errors
  · exact Tree.rootOfValue?_toValue kind children errors fun c _ => c.ofValue?_toValue
  · rw [Tree.toValue_node]
    exact get?_errors_append rfl errors

end FeedQuery
